import ThreadHaul.Common.Bytes
import ThreadHaul.Lib.Runs

/-!
# The Session of the Dashboard

`SessionGuard`: one access key at a time, which is issued, used, revoked or
found expired, and a lockout after repeated bad keys.

A time point is a number of ticks since the epoch of the clock, and the epoch is
also what `lockedUntil_` starts with. The clock never goes back, so a `Session`
advances it by natural numbers. The key generator is a sequence: call `n` of
`newKey_` returns the `n`-th key.

What happened to a guard is its `history`, the newest first. Nothing of the
source reads it. It says in terms of the calls alone what the four fields of the
guard only summarise, and the properties of a guard are statements about it.

## Main definitions

* `Limits`, `Guard`: The limits and the state.
* `currentOrNewKey`, `check`, `revoke`: The three operations.
* `Record`: What a call did.
* `Session`, `step`: A guard with its clock, its key generator and its history.
* `Checks`: What a check can do to a session.
* `Clocked`: What is true of the times in a history.

## Theorems

* `check_of_locked`, `check_of_wrong`, `check_of_expired`, `check_of_accepted`:
  The four outcomes of `Check`.
* `matches_iff`: When a key matches.
* `check_checks`: A check does one of the things in `Checks`.
* `forall_split_cons`: Statements about what is in a history and what came
  before.
* `clocked_cons`, `clocked_check`: A call keeps `Clocked`.
* `lt_lockedUntil_iff`: When a guard is locked.
-/

namespace ThreadHaul

namespace Service

/-- `SessionGuard::Result`. -/
inductive CheckResult
  | ok
  | invalid
  | expired
  | locked
  deriving DecidableEq, Repr

/-- `std::chrono::seconds` in ticks of the clock, which are nanoseconds. -/
def seconds (n : Int) : Int := n * 1000000000

/-- `SessionGuard::Limits`, the durations in ticks. -/
structure Limits where
  idle : Int := seconds (30 * 60)
  absolute : Int := seconds (12 * 60 * 60)
  maxFailures : Int32 := 10
  failureWindow : Int := seconds 60
  lockout : Int := seconds 60

/-- The fields of a `SessionGuard` that change. -/
structure Guard where
  key : Bytes := []
  issued : Int := 0
  lastUse : Int := 0
  lockedUntil : Int := 0
  failures : List Int := []

section Operations

variable (limits : Limits)

/-- `ExpiredLocked`. -/
def Guard.expiredLocked (g : Guard) (t : Int) : Bool :=
  t - g.lastUse > limits.idle || t - g.issued > limits.absolute

/-- There is a key, and it is the one presented. `Equal` is the comparison of
    the secure channel under another name. -/
def Guard.matches (g : Guard) (presented : Bytes) : Bool :=
  !g.key.isEmpty && constantTimeEqual presented g.key

/-- A key has to be issued before one can be handed out. -/
def Guard.needsKey (g : Guard) (t : Int) : Bool := g.key.isEmpty || g.expiredLocked limits t

/-- `CurrentOrNewKey`, where `newKey_` would return `fresh`. -/
def currentOrNewKey (g : Guard) (t : Int) (fresh : Bytes) : Guard :=
  if g.needsKey limits t then { g with key := fresh, issued := t, lastUse := t } else g

/-- The failures after one more at `t`, without those that are too old. -/
def Guard.pushFailure (g : Guard) (t : Int) : List Int :=
  (g.failures ++ [t]).dropWhile fun f => decide (t - f > limits.failureWindow)

/-- `Check`. The size of the queue is cast to `int`. -/
def check (g : Guard) (t : Int) (presented : Bytes) : Guard × CheckResult :=
  if t < g.lockedUntil then (g, .locked)
  else if !g.matches presented then
    let failures := g.pushFailure limits t
    if Int32.ofNat failures.length ≥ limits.maxFailures then
      ({ g with lockedUntil := t + limits.lockout, failures := [] }, .locked)
    else ({ g with failures := failures }, .invalid)
  else if g.expiredLocked limits t then ({ g with key := [] }, .expired)
  else ({ g with lastUse := t }, .ok)

end Operations

/-- `Revoke`. -/
def revoke (g : Guard) : Guard := { g with key := [] }

/-- What a call at a certain time did: it issued a key, it was a sign-out, or it
    was a check. A check is `wrong` if it got past the lockout and the key was
    not the current one, and it `starts` a lockout if it is answered `locked`
    without being in one. -/
inductive Record
  | issued (time : Int) (key : Bytes)
  | revoked (time : Int)
  | checked (time : Int) (presented : Bytes) (result : CheckResult) (wrong starts : Bool)
  deriving DecidableEq

/-- When it was. -/
def Record.time : Record → Int
  | .issued t _ => t
  | .revoked t => t
  | .checked t _ _ _ _ => t

/-- The calls of the three operations, and the passing of time. -/
inductive Operation
  | tick (d : Nat)
  | link
  | check (presented : Bytes)
  | revoke

/-- A guard with the clock, the number of keys generated so far and the history,
    the newest first. -/
structure Session where
  guard : Guard := {}
  now : Int := 0
  generated : Nat := 0
  history : List Record := []

section Step

variable (limits : Limits) (newKey : Nat → Bytes)

/-- What is recorded of a check. -/
def Session.checked (s : Session) (presented : Bytes) : Record :=
  .checked s.now presented (check limits s.guard s.now presented).2
    (!decide (s.now < s.guard.lockedUntil) && !s.guard.matches presented)
    (!decide (s.now < s.guard.lockedUntil) &&
      (check limits s.guard s.now presented).2 == .locked)

/-- A link is asked for, and a new key is issued if one is needed. -/
def Session.link (s : Session) : Session :=
  if s.guard.needsKey limits s.now then
    { s with
      guard := currentOrNewKey limits s.guard s.now (newKey s.generated)
      generated := s.generated + 1
      history := .issued s.now (newKey s.generated) :: s.history }
  else s

/-- `Check`. -/
def Session.check (s : Session) (presented : Bytes) : Session :=
  { s with
    guard := (Service.check limits s.guard s.now presented).1
    history := s.checked limits presented :: s.history }

/-- `Revoke`. -/
def Session.revoke (s : Session) : Session :=
  { s with guard := Service.revoke s.guard, history := .revoked s.now :: s.history }

/-- One call, or some time passes. -/
def Session.step (s : Session) : Operation → Session
  | .tick d => { s with now := s.now + d }
  | .link => s.link limits newKey
  | .check presented => s.check limits presented
  | .revoke => s.revoke

/-- The session after a sequence of calls on a new guard. -/
def Session.after (ops : List Operation) : Session :=
  Runs.run (Session.step limits newKey) {} ops

end Step

section Outcomes

variable (limits : Limits) (g : Guard) (t : Int) (presented : Bytes)

/-- A key matches if it is the current key and not empty. -/
theorem Guard.matches_iff : g.matches presented = true ↔ g.key ≠ [] ∧ presented = g.key := by
  rw [Guard.matches, Bool.and_eq_true, constantTimeEqual_iff, Bool.not_eq_true',
    Bool.eq_false_iff, ne_eq, List.isEmpty_iff]

theorem Guard.expiredLocked_eq_false_iff :
    g.expiredLocked limits t = false ↔
      t - g.lastUse ≤ limits.idle ∧ t - g.issued ≤ limits.absolute := by
  simp only [Guard.expiredLocked, Bool.or_eq_false_iff, decide_eq_false_iff_not, not_lt, gt_iff_lt]

theorem check_of_locked (h : t < g.lockedUntil) : check limits g t presented = (g, .locked) :=
  if_pos h

theorem check_of_wrong (h : ¬ t < g.lockedUntil) (hm : g.matches presented = false) :
    check limits g t presented =
      if Int32.ofNat (g.pushFailure limits t).length ≥ limits.maxFailures then
        ({ g with lockedUntil := t + limits.lockout, failures := [] }, .locked)
      else ({ g with failures := g.pushFailure limits t }, .invalid) := by
  rw [check, if_neg h, hm]
  rfl

theorem check_of_expired (h : ¬ t < g.lockedUntil) (hm : g.matches presented = true)
    (he : g.expiredLocked limits t = true) :
    check limits g t presented = ({ g with key := [] }, .expired) := by
  rw [check, if_neg h, hm, he]
  rfl

theorem check_of_accepted (h : ¬ t < g.lockedUntil) (hm : g.matches presented = true)
    (he : g.expiredLocked limits t = false) :
    check limits g t presented = ({ g with lastUse := t }, .ok) := by
  rw [check, if_neg h, hm, he]
  rfl

/-- What a check of a session does, with what it records. -/
inductive Session.Checks (s : Session) (presented : Bytes) : Session → Prop
  | locked (hlocked : s.now < s.guard.lockedUntil) :
      Session.Checks s presented
        { s with history := .checked s.now presented .locked false false :: s.history }
  | started (hunlocked : ¬ s.now < s.guard.lockedUntil)
      (hwrong : s.guard.matches presented = false)
      (hfull : Int32.ofNat (s.guard.pushFailure limits s.now).length ≥ limits.maxFailures) :
      Session.Checks s presented
        { s with
          guard := { s.guard with lockedUntil := s.now + limits.lockout, failures := [] }
          history := .checked s.now presented .locked true true :: s.history }
  | invalid (hunlocked : ¬ s.now < s.guard.lockedUntil)
      (hwrong : s.guard.matches presented = false)
      (hroom : ¬ Int32.ofNat (s.guard.pushFailure limits s.now).length ≥ limits.maxFailures) :
      Session.Checks s presented
        { s with
          guard := { s.guard with failures := s.guard.pushFailure limits s.now }
          history := .checked s.now presented .invalid true false :: s.history }
  | expired (hunlocked : ¬ s.now < s.guard.lockedUntil)
      (hmatches : s.guard.matches presented = true)
      (hexpired : s.guard.expiredLocked limits s.now = true) :
      Session.Checks s presented
        { s with
          guard := { s.guard with key := [] }
          history := .checked s.now presented .expired false false :: s.history }
  | accepted (hunlocked : ¬ s.now < s.guard.lockedUntil)
      (hmatches : s.guard.matches presented = true)
      (hlive : s.guard.expiredLocked limits s.now = false) :
      Session.Checks s presented
        { s with
          guard := { s.guard with lastUse := s.now }
          history := .checked s.now presented .ok false false :: s.history }

theorem Session.check_checks (s : Session) :
    Session.Checks limits s presented (s.check limits presented) := by
  unfold Session.check Session.checked
  -- The order of the source: the lock, the key, the number of failures, the expiry.
  by_cases hlocked : s.now < s.guard.lockedUntil
  · rw [check_of_locked _ _ _ _ hlocked, decide_eq_true hlocked]
    exact .locked hlocked
  rw [decide_eq_false hlocked]
  cases hmatches : s.guard.matches presented with
  | false =>
      rw [check_of_wrong _ _ _ _ hlocked hmatches]
      by_cases hfull : Int32.ofNat (s.guard.pushFailure limits s.now).length ≥ limits.maxFailures
      · rw [if_pos hfull]
        exact .started hlocked hmatches hfull
      · rw [if_neg hfull]
        exact .invalid hlocked hmatches hfull
  | true =>
      cases hexpired : s.guard.expiredLocked limits s.now with
      | true =>
          rw [check_of_expired _ _ _ _ hlocked hmatches hexpired]
          exact .expired hlocked hmatches hexpired
      | false =>
          rw [check_of_accepted _ _ _ _ hlocked hmatches hexpired]
          exact .accepted hlocked hmatches hexpired

end Outcomes

/-! ### What a history says -/

/-- A key was presented. -/
def Record.isCheck : Record → Bool
  | .checked .. => true
  | _ => false

/-- A check that compared a wrong key. -/
def Record.isWrong : Record → Bool
  | .checked _ _ _ wrong _ => wrong
  | _ => false

/-- A check that started a lockout. -/
def Record.starts : Record → Bool
  | .checked _ _ _ _ starts => starts
  | _ => false

/-- A check was refused because of the lockout. -/
def Record.isLocked : Record → Bool
  | .checked _ _ result _ _ => result == .locked
  | _ => false

/-- The clock, and the lockout as the history has it. -/
structure Clocked (limits : Limits) (s : Session) : Prop where
  epoch : 0 ≤ s.now
  past : ∀ r ∈ s.history, r.time ≤ s.now
  ordered : s.history.Pairwise fun r r' => r'.time ≤ r.time
  locked : s.guard.lockedUntil =
    ((s.history.find? Record.starts).map fun start => start.time + limits.lockout).getD 0

/-- A statement about every element of a list and what comes after it, for the
    first element and for the others. -/
theorem forall_split_cons {α : Type} (P : List α → α → List α → Prop) (a : α) (l : List α) :
    (∀ newer r older, a :: l = newer ++ r :: older → P newer r older) ↔
      P [] a l ∧ ∀ newer r older, l = newer ++ r :: older → P (a :: newer) r older := by
  constructor
  · intro h
    exact ⟨h [] a l rfl, fun newer r older hl => h (a :: newer) r older (by rw [hl]; rfl)⟩
  · rintro ⟨hfirst, hothers⟩ newer r older hl
    -- The record in question is the new one, or one of the others.
    cases newer with
    | nil =>
        injection hl with ha hl
        rw [← ha, ← hl]
        exact hfirst
    | cons b newer =>
        injection hl with ha hl
        rw [← ha]
        exact hothers newer r older hl

section Clock

variable (limits : Limits) (s : Session)

/-- A new guard has no history. -/
theorem clocked_initial : Clocked limits {} :=
  ⟨le_refl 0, fun _ hr => absurd hr List.not_mem_nil, List.Pairwise.nil, rfl⟩

theorem clocked_tick (h : Clocked limits s) (d : Nat) :
    Clocked limits { s with now := s.now + d } where
  epoch := by
    have hepoch := h.epoch
    change 0 ≤ s.now + d
    omega
  past r hr := by
    have hpast := h.past r hr
    change r.time ≤ s.now + d
    omega
  ordered := h.ordered
  locked := h.locked

/-- A call is recorded, and only the start of a lockout changes when it ends. -/
theorem clocked_cons (h : Clocked limits s) (r : Record) (htime : r.time = s.now) (g : Guard)
    (hlocked : g.lockedUntil =
      if r.starts then s.now + limits.lockout else s.guard.lockedUntil) (generated : Nat) :
    Clocked limits
      { s with guard := g, generated := generated, history := r :: s.history } where
  epoch := h.epoch
  past := List.forall_mem_cons.mpr ⟨le_of_eq htime, h.past⟩
  ordered := by
    rw [List.pairwise_cons]
    refine ⟨?_, h.ordered⟩
    intro r' hr'
    rw [htime]
    exact h.past r' hr'
  locked := by
    rw [hlocked]
    -- A record that starts a lockout is now the latest of them.
    by_cases hstarts : r.starts = true
    · rw [if_pos hstarts, List.find?_cons_of_pos hstarts, ← htime]
      rfl
    · rw [if_neg hstarts, List.find?_cons_of_neg hstarts]
      exact h.locked

/-- What a check does to a session, and the record it leaves. -/
theorem clocked_check (h : Clocked limits s) (presented : Bytes) (s' : Session)
    (hs : Session.Checks limits s presented s') : Clocked limits s' := by
  -- Only the start of a lockout moves the time until which checks are held up.
  cases hs with
  | locked hlocked =>
      exact clocked_cons limits s h (.checked s.now presented .locked false false) rfl s.guard
        rfl _
  | started hunlocked hwrong hfull =>
      exact clocked_cons limits s h (.checked s.now presented .locked true true) rfl
        { s.guard with lockedUntil := s.now + limits.lockout, failures := [] } rfl _
  | invalid hunlocked hwrong hroom =>
      exact clocked_cons limits s h (.checked s.now presented .invalid true false) rfl
        { s.guard with failures := s.guard.pushFailure limits s.now } rfl _
  | expired hunlocked hmatches hexpired =>
      exact clocked_cons limits s h (.checked s.now presented .expired false false) rfl
        { s.guard with key := [] } rfl _
  | accepted hunlocked hmatches hlive =>
      exact clocked_cons limits s h (.checked s.now presented .ok false false) rfl
        { s.guard with lastUse := s.now } rfl _

/-- A lockout that has not ended is the reason for the guard to be locked. -/
theorem lt_lockedUntil (h : Clocked limits s) (start : Record) (hmem : start ∈ s.history)
    (hstarts : start.starts = true) (hnow : s.now < start.time + limits.lockout) :
    s.now < s.guard.lockedUntil := by
  rw [h.locked]
  cases hfind : s.history.find? Record.starts with
  | none =>
      rw [List.find?_eq_none] at hfind
      exact absurd hstarts (hfind start hmem)
  | some u =>
      -- `u` is the newest one, so it is not older than `start`.
      obtain ⟨_, newer, older, hsplit, hnewer⟩ := List.find?_eq_some_iff_append.mp hfind
      have hordered := h.ordered
      rw [hsplit] at hmem hordered
      have hle : start.time ≤ u.time := by
        rcases List.mem_append.mp hmem with hmem | hmem
        · have hnot := hnewer start hmem
          rw [hstarts] at hnot
          exact absurd hnot Bool.false_ne_true
        · rcases List.mem_cons.mp hmem with rfl | hmem
          · exact le_refl _
          · exact (List.pairwise_cons.mp (List.pairwise_append.mp hordered).2.1).1 start hmem
      change s.now < u.time + limits.lockout
      omega

/-- The guard is locked by a lockout in its history. -/
theorem exists_start_of_locked (h : Clocked limits s) (hnow : s.now < s.guard.lockedUntil) :
    ∃ newer start older, s.history = newer ++ start :: older ∧ start.starts = true ∧
      s.now < start.time + limits.lockout := by
  rw [h.locked] at hnow
  cases hfind : s.history.find? Record.starts with
  | none =>
      rw [hfind] at hnow
      exact absurd hnow (not_lt.mpr h.epoch)
  | some u =>
      obtain ⟨hstarts, newer, older, hsplit, _⟩ := List.find?_eq_some_iff_append.mp hfind
      rw [hfind] at hnow
      exact ⟨newer, u, older, hsplit, hstarts, hnow⟩

/-- The guard is locked exactly during the lockouts of its history. -/
theorem lt_lockedUntil_iff (h : Clocked limits s) :
    s.now < s.guard.lockedUntil ↔
      ∃ start ∈ s.history, start.starts = true ∧ s.now < start.time + limits.lockout := by
  constructor
  · intro hnow
    obtain ⟨newer, start, older, hsplit, hstarts, hlt⟩ := exists_start_of_locked limits s h hnow
    refine ⟨start, ?_, hstarts, hlt⟩
    rw [hsplit]
    exact List.mem_append_right _ (List.mem_cons_self ..)
  · rintro ⟨start, hmem, hstarts, hlt⟩
    exact lt_lockedUntil limits s h start hmem hstarts hlt

end Clock

end Service

end ThreadHaul
