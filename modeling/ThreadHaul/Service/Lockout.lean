import Mathlib.Data.List.TakeWhile
import ThreadHaul.Service.SessionGuard

/-!
# The Lockout

What the failure queue of the session guard makes of a sequence of checks: the
rate at which keys can be tried, and when a check is answered `Locked`.

The queue is pruned only when a failure is added to it, it is cleared when a
lockout starts, and nothing is added to it during one. So at any time it holds
more than what lies in the window, and `Tracks` says what it is good for
nevertheless: the part of it that still counts at a time from now on is the
wrong keys since the last lockout that still count then.

A lockout separates the wrong keys before it from those after it by at least its
own length. An interval no longer than the lockout has wrong keys from one side
only, and if it is no longer than the window either, all of them were in the
queue when the last one was added.

## Main definitions

* `wrongIn`: The number of wrong keys in a time span.
* `Sparse`, `Enforced`, `Justified`: What is promised about a history.
* `Tracks`: What the guard knows of its history.

## Theorems

* `pushFailure_eq_filter`: Dropping from the front drops what is too old.
* `tracks_step`: Every call keeps `Tracks`.
* `wrongIn_cons_le`, `provoked_of_full`: What the queue says about the history.
* `promised_step`: Every call keeps the promises.
* `guessing_rateLimited`: All promises hold after any sequence of calls.
-/

namespace ThreadHaul

namespace Service

/-! ### What is promised -/

/-- The number of wrong keys at the times with a property. -/
def wrongIn (history : List Record) (P : Int → Bool) : Nat :=
  history.countP fun r => r.isWrong && P r.time

section Promises

variable (limits : Limits) (history : List Record)

/-- The length of an interval for which the number of wrong keys is limited. -/
def Limits.interval : Int := min limits.failureWindow limits.lockout

/-- Any half-open interval of that length has at most `maxFailures` wrong
    keys. -/
def Sparse : Prop :=
  ∀ a : Int,
    (wrongIn history fun t => a ≤ t ∧ t < a + limits.interval) ≤ limits.maxFailures.toInt ∧
      (wrongIn history fun t => a < t ∧ t ≤ a + limits.interval) ≤ limits.maxFailures.toInt

/-- A check during a lockout is answered `Locked`. -/
def Enforced : Prop :=
  ∀ newer start older, history = newer ++ start :: older → start.starts = true →
    ∀ r ∈ newer, r.isCheck = true → r.time < start.time + limits.lockout → r.isLocked = true

/-- There were enough wrong keys in the window before the newest record. -/
def Provoked (start : Record) (older : List Record) : Prop :=
  limits.maxFailures.toInt ≤
    wrongIn (start :: older) fun t => start.time - limits.failureWindow ≤ t ∧ t ≤ start.time

/-- The check that is answered `Locked` starts a lockout or falls into one, and
    that lockout was provoked. -/
def Justified : Prop :=
  ∀ newer r older, history = newer ++ r :: older → r.isLocked = true →
    ∃ between start before, r :: older = between ++ start :: before ∧ start.starts = true ∧
      start.time ≤ r.time ∧ (r.time < start.time + limits.lockout ∨ between = []) ∧
        Provoked limits start before

end Promises

/-! ### What the guard knows -/

/-- The records since the last lockout started. -/
def sinceStart (history : List Record) : List Record := history.takeWhile fun r => !r.starts

/-- The times of the wrong keys, the newest first. -/
def wrongTimes (history : List Record) : List Int :=
  (history.filter Record.isWrong).map Record.time

/-- A time is in the window that ends at `t`. -/
def Limits.recent (limits : Limits) (t f : Int) : Bool := decide (t - f ≤ limits.failureWindow)

/-- The failure queue of the guard and its history. -/
structure Tracks (limits : Limits) (s : Session) : Prop extends Clocked limits s where
  queueSorted : s.guard.failures.Pairwise (· ≤ ·)
  queuePast : ∀ f ∈ s.guard.failures, f ≤ s.now
  queue : ∀ t, s.now ≤ t → s.guard.failures.filter (limits.recent t) =
    ((wrongTimes (sinceStart s.history)).filter (limits.recent t)).reverse
  short : (s.guard.failures.length : Int) < limits.maxFailures.toInt

section Queue

variable (limits : Limits)

/-- In a queue in the order of time, what is too old is in front. -/
theorem dropWhile_eq_filter_recent (t : Int) (queue : List Int)
    (hsorted : queue.Pairwise (· ≤ ·)) :
    (queue.dropWhile fun f => decide (t - f > limits.failureWindow)) =
      queue.filter (limits.recent t) := by
  -- The queue is sorted, so what is too old stands at its front.
  induction queue with
  | nil => rfl
  | cons f queue ih =>
      rw [List.pairwise_cons] at hsorted
      by_cases hold : t - f > limits.failureWindow
      · have hrecent : ¬ limits.recent t f = true := by
          rw [Limits.recent, decide_eq_true_eq]
          omega
        rw [List.dropWhile_cons_of_pos (by exact decide_eq_true hold), ih hsorted.2,
          List.filter_cons_of_neg hrecent]
      · -- The first one that still counts, and the others are younger.
        rw [List.dropWhile_cons_of_neg (by rw [decide_eq_true_eq]; exact hold)]
        refine (List.filter_eq_self.mpr ?_).symm
        intro x hx
        rw [Limits.recent, decide_eq_true_eq]
        rcases List.mem_cons.mp hx with rfl | hx
        · omega
        · have hle := hsorted.1 x hx
          omega

/-- Dropping from the front drops what is too old. -/
theorem pushFailure_eq_filter (g : Guard) (t : Int) (hsorted : g.failures.Pairwise (· ≤ ·))
    (hpast : ∀ f ∈ g.failures, f ≤ t) :
    g.pushFailure limits t = (g.failures ++ [t]).filter (limits.recent t) := by
  rw [Guard.pushFailure, dropWhile_eq_filter_recent]
  rw [List.pairwise_append]
  refine ⟨hsorted, List.pairwise_singleton _ _, ?_⟩
  intro f hf x hx
  rw [List.mem_singleton.mp hx]
  exact hpast f hf

/-- What counts at a later time counts at an earlier one. -/
theorem filter_recent_filter (t t' : Int) (h : t ≤ t') (queue : List Int) :
    (queue.filter (limits.recent t)).filter (limits.recent t') =
      queue.filter (limits.recent t') := by
  rw [List.filter_filter]
  refine List.filter_congr ?_
  intro f _
  rw [Bool.and_eq_left_iff_imp]
  simp only [Limits.recent, decide_eq_true_eq]
  intro hf
  omega

theorem wrongTimes_cons (r : Record) (history : List Record) :
    wrongTimes (r :: history) =
      if r.isWrong then r.time :: wrongTimes history else wrongTimes history := by
  cases hw : r.isWrong with
  | true =>
      rw [if_pos rfl, wrongTimes, List.filter_cons_of_pos hw]
      rfl
  | false =>
      rw [if_neg Bool.false_ne_true, wrongTimes, List.filter_cons_of_neg (Bool.eq_false_iff.mp hw)]
      rfl

/-- The wrong keys of a time span, counted in the list of their times. -/
theorem wrongIn_eq_length (history : List Record) (P : Int → Bool) :
    wrongIn history P = ((wrongTimes history).filter P).length := by
  rw [wrongIn, wrongTimes, List.filter_map, List.length_map, List.filter_filter,
    List.countP_eq_length_filter]
  congr 2
  funext r
  rw [Bool.and_comm]
  rfl

/-- The size of the queue fits into an `int`. -/
theorem cast_ge_iff (n : Nat) (h : (n : Int) ≤ limits.maxFailures.toInt) :
    Int32.ofNat n ≥ limits.maxFailures ↔ limits.maxFailures.toInt ≤ n := by
  have hmax := Int32.toInt_lt limits.maxFailures
  rw [ge_iff_le, Int32.le_iff_toInt_le, Int32.toInt_ofNat_of_lt (by omega)]

theorem sinceStart_cons (r : Record) (history : List Record) :
    sinceStart (r :: history) = if r.starts then [] else r :: sinceStart history := by
  cases hs : r.starts with
  | true => exact List.takeWhile_cons_of_neg (by rw [hs]; exact Bool.false_ne_true)
  | false => exact List.takeWhile_cons_of_pos (by rw [hs]; rfl)

end Queue

section Keeping

variable (limits : Limits) (s : Session)

/-- A new guard has no history. -/
theorem tracks_initial (hmax : 1 ≤ limits.maxFailures) : Tracks limits {} where
  toClocked := clocked_initial limits
  queueSorted := List.Pairwise.nil
  queuePast _ hf := absurd hf List.not_mem_nil
  queue _ _ := rfl
  short := by
    rw [Int32.le_iff_toInt_le] at hmax
    exact hmax

/-- Time passes, and fewer failures count. -/
theorem tracks_tick (h : Tracks limits s) (d : Nat) :
    Tracks limits { s with now := s.now + d } where
  toClocked := clocked_tick limits s h.toClocked d
  queueSorted := h.queueSorted
  queuePast f hf := by
    have hpast := h.queuePast f hf
    change f ≤ s.now + d
    omega
  queue t ht := h.queue t (by
    change s.now + d ≤ t at ht
    omega)
  short := h.short

/-- A record that is neither a wrong key nor the start of a lockout. -/
theorem tracks_quiet (h : Tracks limits s) (r : Record) (htime : r.time = s.now)
    (hwrong : r.isWrong = false) (hstarts : r.starts = false) (g : Guard)
    (hfailures : g.failures = s.guard.failures)
    (hlocked : g.lockedUntil = s.guard.lockedUntil) (generated : Nat) :
    Tracks limits
      { s with guard := g, generated := generated, history := r :: s.history } where
  toClocked := by
    refine clocked_cons limits s h.toClocked r htime g ?_ generated
    rw [hstarts, hlocked, if_neg Bool.false_ne_true]
  queueSorted := by
    rw [hfailures]
    exact h.queueSorted
  queuePast := by
    rw [hfailures]
    exact h.queuePast
  -- The record is neither wrong nor a start, so it is in none of the counts.
  queue t ht := by
    rw [sinceStart_cons, hstarts, if_neg Bool.false_ne_true, wrongTimes_cons, hwrong,
      if_neg Bool.false_ne_true, hfailures]
    exact h.queue t ht
  short := by
    rw [hfailures]
    exact h.short

/-- A lockout starts, with an empty queue. -/
theorem tracks_started (h : Tracks limits s) (hmax : 1 ≤ limits.maxFailures)
    (presented : Bytes) :
    Tracks limits
      { s with
        guard := { s.guard with lockedUntil := s.now + limits.lockout, failures := [] }
        history := .checked s.now presented .locked true true :: s.history } where
  toClocked := clocked_cons limits s h.toClocked (.checked s.now presented .locked true true) rfl
    { s.guard with lockedUntil := s.now + limits.lockout, failures := [] } rfl s.generated
  queueSorted := List.Pairwise.nil
  queuePast _ hf := absurd hf List.not_mem_nil
  queue _ _ := rfl
  short := (tracks_initial limits hmax).short

theorem length_pushFailure_le (g : Guard) (t : Int) :
    (g.pushFailure limits t).length ≤ g.failures.length + 1 := by
  have hle := (List.dropWhile_sublist (fun f => decide (t - f > limits.failureWindow))
    (l := g.failures ++ [t])).length_le
  rw [List.length_append] at hle
  exact hle

/-- One more wrong key, and still room for another. -/
theorem tracks_invalid (h : Tracks limits s) (presented : Bytes)
    (hroom : ¬ Int32.ofNat (s.guard.pushFailure limits s.now).length ≥ limits.maxFailures) :
    Tracks limits
      { s with
        guard := { s.guard with failures := s.guard.pushFailure limits s.now }
        history := .checked s.now presented .invalid true false :: s.history } where
  toClocked := clocked_cons limits s h.toClocked (.checked s.now presented .invalid true false)
    rfl { s.guard with failures := s.guard.pushFailure limits s.now } rfl s.generated
  queueSorted := by
    refine List.Pairwise.sublist (List.dropWhile_sublist _) ?_
    rw [List.pairwise_append]
    refine ⟨h.queueSorted, List.pairwise_singleton _ _, ?_⟩
    intro f hf x hx
    rw [List.mem_singleton.mp hx]
    exact h.queuePast f hf
  queuePast f hf := by
    have hmem := (List.dropWhile_sublist _).subset hf
    rcases List.mem_append.mp hmem with hmem | hmem
    · exact h.queuePast f hmem
    · exact le_of_eq (List.mem_singleton.mp hmem)
  queue t ht := by
    change (s.guard.pushFailure limits s.now).filter _ = _
    rw [pushFailure_eq_filter limits s.guard s.now h.queueSorted h.queuePast,
      filter_recent_filter limits s.now t ht, List.filter_append, h.queue t ht, sinceStart_cons,
      if_neg (by exact Bool.false_ne_true), wrongTimes_cons, if_pos (by rfl)]
    change _ = ((s.now :: _).filter _).reverse
    -- The new failure is the last of the queue and the first of the times.
    by_cases hrecent : limits.recent t s.now = true
    · rw [List.filter_cons_of_pos hrecent, List.filter_nil, List.filter_cons_of_pos hrecent,
        List.reverse_cons]
    · rw [List.filter_cons_of_neg hrecent, List.filter_nil, List.filter_cons_of_neg hrecent,
        List.append_nil]
  short := by
    have hlen := length_pushFailure_le limits s.guard s.now
    have hshort := h.short
    rw [cast_ge_iff limits _ (by omega)] at hroom
    exact not_le.mp hroom

theorem tracks_check (h : Tracks limits s) (hmax : 1 ≤ limits.maxFailures) (presented : Bytes)
    (s' : Session) (hs : Session.Checks limits s presented s') : Tracks limits s' := by
  -- Only a wrong key changes the queue.
  cases hs with
  | locked hlocked =>
      exact tracks_quiet limits s h (.checked s.now presented .locked false false) rfl rfl rfl
        s.guard rfl rfl _
  | started hunlocked hwrong hfull => exact tracks_started limits s h hmax presented
  | invalid hunlocked hwrong hroom => exact tracks_invalid limits s h presented hroom
  | expired hunlocked hmatches hexpired =>
      exact tracks_quiet limits s h (.checked s.now presented .expired false false) rfl rfl rfl
        { s.guard with key := [] } rfl rfl _
  | accepted hunlocked hmatches hlive =>
      exact tracks_quiet limits s h (.checked s.now presented .ok false false) rfl rfl rfl
        { s.guard with lastUse := s.now } rfl rfl _

/-- Every call keeps `Tracks`. -/
theorem tracks_step (newKey : Nat → Bytes) (hmax : 1 ≤ limits.maxFailures)
    (h : Tracks limits s) (op : Operation) : Tracks limits (s.step limits newKey op) := by
  cases op with
  | tick d => exact tracks_tick limits s h d
  | link =>
      unfold Session.step Session.link
      split_ifs with hneeds
      · -- A new key leaves the queue and the lock.
        refine tracks_quiet limits s h (.issued s.now _) rfl rfl rfl _ ?_ ?_ _
        · rw [currentOrNewKey, if_pos hneeds]
        · rw [currentOrNewKey, if_pos hneeds]
      · exact h
  | check presented =>
      exact tracks_check limits s h hmax presented _ (s.check_checks limits presented)
  | revoke =>
      exact tracks_quiet limits s h (.revoked s.now) rfl rfl rfl (revoke s.guard) rfl rfl _

end Keeping

/-! ### What follows from it -/

section Consequences

variable (limits : Limits) (s : Session)

/-- Before the last lockout there is nothing that is younger than it is long. -/
theorem wrongIn_before_start (h : Tracks limits s) (hunlocked : ¬ s.now < s.guard.lockedUntil) :
    (wrongIn (s.history.dropWhile fun r => !r.starts)
      fun t => s.now - limits.interval < t) = 0 := by
  refine List.countP_eq_zero.mpr ?_
  intro r hr hcounts
  rw [Bool.and_eq_true, decide_eq_true_eq] at hcounts
  cases hrest : s.history.dropWhile fun r => !r.starts with
  | nil =>
      rw [hrest] at hr
      exact absurd hr List.not_mem_nil
  | cons u older =>
      -- The last lockout is over, and it was at least as long as the interval.
      have hlocked := h.locked
      rw [List.find?_eq_head?_dropWhile_not, hrest] at hlocked
      change s.guard.lockedUntil = u.time + limits.lockout at hlocked
      have hle : r.time ≤ u.time := by
        have hordered := h.ordered.sublist (List.dropWhile_sublist fun r => !r.starts)
        rw [hrest] at hr hordered
        rcases List.mem_cons.mp hr with rfl | hr
        · exact le_refl _
        · exact (List.pairwise_cons.mp hordered).1 r hr
      have hinterval : limits.interval ≤ limits.lockout := min_le_right _ _
      omega

/-- Since the last lockout there are no more of them than the queue has. -/
theorem wrongIn_sinceStart_le (h : Tracks limits s) :
    (wrongIn (sinceStart s.history) fun t => s.now - limits.interval < t) ≤
      s.guard.failures.length := by
  -- What counts in the interval counts in the window of the queue.
  have hinterval : limits.interval ≤ limits.failureWindow := min_le_left _ _
  calc (wrongIn (sinceStart s.history) fun t => s.now - limits.interval < t)
      ≤ wrongIn (sinceStart s.history) (limits.recent s.now) := by
        refine List.countP_mono_left ?_
        intro r _ hr
        rw [Bool.and_eq_true, decide_eq_true_eq] at hr
        rw [Bool.and_eq_true, Limits.recent, decide_eq_true_eq]
        refine ⟨hr.1, ?_⟩
        omega
    _ = (s.guard.failures.filter (limits.recent s.now)).length := by
        rw [wrongIn_eq_length, h.queue s.now (le_refl _), List.length_reverse]
    _ ≤ s.guard.failures.length := List.length_filter_le _ _

/-- One more wrong key outside a lockout is not one too many. -/
theorem wrongIn_cons_le (h : Tracks limits s) (hunlocked : ¬ s.now < s.guard.lockedUntil)
    (r : Record) :
    (wrongIn (r :: s.history) fun t => s.now - limits.interval < t) ≤
      limits.maxFailures.toInt := by
  have hbefore := wrongIn_before_start limits s h hunlocked
  have hsince := wrongIn_sinceStart_le limits s h
  have hsplit : ∀ P, wrongIn s.history P = wrongIn (sinceStart s.history) P +
      wrongIn (s.history.dropWhile fun r => !r.starts) P := by
    intro P
    rw [wrongIn, wrongIn, wrongIn, ← List.countP_append, sinceStart,
      List.takeWhile_append_dropWhile]
  -- The new record adds one at most, and there was room for one.
  have hone : ∀ P, wrongIn (r :: s.history) P ≤ wrongIn s.history P + 1 := by
    intro P
    rw [wrongIn, List.countP_cons]
    refine Nat.add_le_add_left ?_ _
    split_ifs
    · exact le_refl 1
    · exact Nat.zero_le 1
  have hcount := hone fun t => s.now - limits.interval < t
  rw [hsplit, hbefore] at hcount
  have hshort := h.short
  omega

/-- A lockout starts after enough wrong keys. -/
theorem provoked_of_full (h : Tracks limits s) (r : Record) (htime : r.time = s.now)
    (hwrong : r.isWrong = true)
    (hfull : Int32.ofNat (s.guard.pushFailure limits s.now).length ≥ limits.maxFailures) :
    Provoked limits r s.history := by
  have hlen := length_pushFailure_le limits s.guard s.now
  have hshort := h.short
  rw [cast_ge_iff limits _ (by omega)] at hfull
  -- What the guard counts are the wrong keys since the last lockout that still count.
  have hqueue : (s.guard.pushFailure limits s.now).length =
      wrongIn (r :: sinceStart s.history) (limits.recent s.now) := by
    rw [pushFailure_eq_filter limits s.guard s.now h.queueSorted h.queuePast, List.filter_append,
      h.queue s.now (le_refl _), wrongIn_eq_length, wrongTimes_cons, if_pos hwrong, htime,
      List.length_append, List.length_reverse]
    -- With a negative window not even the newest one does.
    by_cases hrecent : limits.recent s.now s.now = true
    · rw [List.filter_cons_of_pos hrecent, List.filter_nil, List.filter_cons_of_pos hrecent]
      rfl
    · rw [List.filter_cons_of_neg hrecent, List.filter_nil, List.filter_cons_of_neg hrecent]
      rfl
  -- All of them are in the window.
  have hmono : wrongIn (r :: sinceStart s.history) (limits.recent s.now) ≤
      wrongIn (r :: s.history) fun t =>
        r.time - limits.failureWindow ≤ t ∧ t ≤ r.time := by
    refine le_trans (List.countP_mono_left ?_)
      (List.Sublist.countP_le ((List.takeWhile_sublist _).cons_cons r))
    intro r' hr' hcounts
    have hpast : r'.time ≤ s.now := by
      rcases List.mem_cons.mp hr' with rfl | hmem
      · exact le_of_eq htime
      · exact h.past r' ((List.takeWhile_sublist _).subset hmem)
    rw [Bool.and_eq_true, Limits.recent, decide_eq_true_eq] at hcounts
    rw [Bool.and_eq_true, decide_eq_true_eq, htime]
    exact ⟨hcounts.1, by omega, hpast⟩
  rw [Provoked]
  omega

end Consequences

/-! ### The promises are kept -/

section Kept

variable (limits : Limits)

/-- Every wrong key was within the limit when it was added. -/
def Spaced (history : List Record) : Prop :=
  ∀ newer r older, history = newer ++ r :: older → r.isWrong = true →
    (wrongIn (r :: older) fun t => r.time - limits.interval < t) ≤ limits.maxFailures.toInt

/-- The last wrong key of a time span sees all the others. -/
theorem wrongIn_le_of_spaced (hmax : 0 ≤ limits.maxFailures.toInt) (P : Int → Bool)
    (hP : ∀ t t', P t = true → P t' = true → t' - limits.interval < t) (history : List Record)
    (h : Spaced limits history) : wrongIn history P ≤ limits.maxFailures.toInt := by
  induction history with
  | nil => exact hmax
  | cons r history ih =>
      have hsplit := (forall_split_cons _ r history).mp h
      -- The newest wrong check in question has all the others within its interval.
      by_cases hr : (r.isWrong && P r.time) = true
      · rw [Bool.and_eq_true] at hr
        refine le_trans (Int.ofNat_le.mpr (List.countP_mono_left ?_)) (hsplit.1 hr.1)
        intro r' _ hr'
        rw [Bool.and_eq_true] at hr' ⊢
        exact ⟨hr'.1, decide_eq_true (hP r'.time r.time hr'.2 hr.2)⟩
      · have hskip : wrongIn (r :: history) P = wrongIn history P := List.countP_cons_of_neg hr
        rw [hskip]
        exact ih hsplit.2

theorem sparse_of_spaced (hmax : 0 ≤ limits.maxFailures.toInt) (history : List Record)
    (h : Spaced limits history) : Sparse limits history := by
  intro a
  constructor
  · refine wrongIn_le_of_spaced limits hmax _ ?_ history h
    intro t t' ht ht'
    rw [decide_eq_true_eq] at ht ht'
    omega
  · refine wrongIn_le_of_spaced limits hmax _ ?_ history h
    intro t t' ht ht'
    rw [decide_eq_true_eq] at ht ht'
    omega

/-- What is promised of a history, record by record. -/
structure Promised (history : List Record) : Prop where
  spaced : Spaced limits history
  enforced : Enforced limits history
  provoked : ∀ newer start older, history = newer ++ start :: older → start.starts = true →
    Provoked limits start older
  justified : Justified limits history

theorem promised_nil : Promised limits [] where
  spaced newer r older h := absurd h.symm (List.append_ne_nil_of_right_ne_nil newer
    (List.cons_ne_nil r older))
  enforced newer r older h := absurd h.symm (List.append_ne_nil_of_right_ne_nil newer
    (List.cons_ne_nil r older))
  provoked newer r older h := absurd h.symm (List.append_ne_nil_of_right_ne_nil newer
    (List.cons_ne_nil r older))
  justified newer r older h := absurd h.symm (List.append_ne_nil_of_right_ne_nil newer
    (List.cons_ne_nil r older))

/-- One more record has to keep the promises for itself. -/
theorem promised_cons (history : List Record) (h : Promised limits history) (r : Record)
    (hspaced : r.isWrong = true →
      (wrongIn (r :: history) fun t => r.time - limits.interval < t) ≤ limits.maxFailures.toInt)
    (henforced : ∀ start ∈ history, start.starts = true → r.isCheck = true →
      r.time < start.time + limits.lockout → r.isLocked = true)
    (hprovoked : r.starts = true → Provoked limits r history)
    (hjustified : r.isLocked = true → r.starts = true ∨
      ∃ newer start older, history = newer ++ start :: older ∧ start.starts = true ∧
        start.time ≤ r.time ∧ r.time < start.time + limits.lockout) :
    Promised limits (r :: history) where
  spaced := (forall_split_cons _ r history).mpr ⟨hspaced, h.spaced⟩
  enforced := by
    refine (forall_split_cons _ r history).mpr ⟨?_, ?_⟩
    · intro _ r' hr'
      exact absurd hr' List.not_mem_nil
    · -- Only the new record comes after more lockouts than before.
      intro newer start older hl hstarts r' hr'
      rcases List.mem_cons.mp hr' with rfl | hr'
      · refine henforced start ?_ hstarts
        rw [hl]
        exact List.mem_append_right _ (List.mem_cons_self ..)
      · exact h.enforced newer start older hl hstarts r' hr'
  provoked := (forall_split_cons _ r history).mpr ⟨hprovoked, h.provoked⟩
  justified := by
    refine (forall_split_cons _ r history).mpr ⟨?_, h.justified⟩
    intro hlocked
    rcases hjustified hlocked with hstarts | ⟨newer, start, older, hl, hstarts, hle, hlt⟩
    · -- It starts the lockout that it is answered with.
      exact ⟨[], r, history, rfl, hstarts, le_refl _, Or.inr rfl, hprovoked hstarts⟩
    · exact ⟨r :: newer, start, older, by rw [hl]; rfl, hstarts, hle, Or.inl hlt,
        h.provoked newer start older hl hstarts⟩

/-- A record of another kind than a check promises nothing. -/
theorem promised_cons_other (history : List Record) (h : Promised limits history) (r : Record)
    (hcheck : r.isCheck = false) : Promised limits (r :: history) := by
  have hplain : r.isWrong ≠ true ∧ r.isLocked ≠ true ∧ r.starts ≠ true := by
    cases r with
    | issued t key => exact ⟨Bool.false_ne_true, Bool.false_ne_true, Bool.false_ne_true⟩
    | revoked t => exact ⟨Bool.false_ne_true, Bool.false_ne_true, Bool.false_ne_true⟩
    | checked t presented result wrong starts => cases hcheck
  refine promised_cons limits history h r (fun hr => absurd hr hplain.1) ?_
    (fun hr => absurd hr hplain.2.2) (fun hr => absurd hr hplain.2.1)
  intro _ _ _ hr
  rw [hcheck] at hr
  cases hr

/-- A check outside a lockout, which may start one. -/
theorem promised_cons_unlocked (s : Session) (ht : Tracks limits s)
    (h : Promised limits s.history) (hunlocked : ¬ s.now < s.guard.lockedUntil) (r : Record)
    (htime : r.time = s.now) (hlocked : r.isLocked = true → r.starts = true)
    (hprovoked : r.starts = true → Provoked limits r s.history) :
    Promised limits (r :: s.history) := by
  refine promised_cons limits s.history h r ?_ ?_ hprovoked fun hr => Or.inl (hlocked hr)
  · intro _
    rw [htime]
    exact wrongIn_cons_le limits s ht hunlocked r
  · intro start hstart hstarts _ hlt
    rw [htime] at hlt
    exact absurd (lt_lockedUntil limits s ht.toClocked start hstart hstarts hlt) hunlocked

/-- A check outside a lockout that is not answered `Locked`. -/
theorem promised_cons_answered (s : Session) (ht : Tracks limits s)
    (h : Promised limits s.history) (hunlocked : ¬ s.now < s.guard.lockedUntil) (r : Record)
    (htime : r.time = s.now) (hlocked : r.isLocked = false) (hstarts : r.starts = false) :
    Promised limits (r :: s.history) := by
  refine promised_cons_unlocked limits s ht h hunlocked r htime ?_ ?_
  · intro htrue
    exact absurd (hlocked.symm.trans htrue) Bool.false_ne_true
  · intro htrue
    exact absurd (hstarts.symm.trans htrue) Bool.false_ne_true

/-- A check in a lockout is answered for the reason the lockout has. -/
theorem promised_cons_locked (s : Session) (ht : Tracks limits s)
    (h : Promised limits s.history) (hnow : s.now < s.guard.lockedUntil) (presented : Bytes) :
    Promised limits (.checked s.now presented .locked false false :: s.history) := by
  refine promised_cons limits s.history h _ ?_ (fun _ _ _ _ _ => rfl) ?_ ?_
  · intro hwrong
    cases hwrong
  · intro hstarts
    cases hstarts
  · intro _
    -- The lockout that is held up was started by a check before.
    obtain ⟨newer, start, older, hsplit, hstarts, hlt⟩ :=
      exists_start_of_locked limits s ht.toClocked hnow
    refine Or.inr ⟨newer, start, older, hsplit, hstarts, ht.past start ?_, hlt⟩
    rw [hsplit]
    exact List.mem_append_right _ (List.mem_cons_self ..)

theorem promised_check (s : Session) (ht : Tracks limits s) (h : Promised limits s.history)
    (presented : Bytes) (s' : Session) (hs : Session.Checks limits s presented s') :
    Promised limits s'.history := by
  -- A check is held up, starts a lockout, or is answered.
  cases hs with
  | locked hlocked => exact promised_cons_locked limits s ht h hlocked presented
  | started hunlocked hwrong hfull =>
      refine promised_cons_unlocked limits s ht h hunlocked _ rfl (fun _ => rfl) fun _ => ?_
      exact provoked_of_full limits s ht _ rfl rfl hfull
  | invalid hunlocked hwrong hroom =>
      exact promised_cons_answered limits s ht h hunlocked _ rfl rfl rfl
  | expired hunlocked hmatches hexpired =>
      exact promised_cons_answered limits s ht h hunlocked _ rfl rfl rfl
  | accepted hunlocked hmatches hlive =>
      exact promised_cons_answered limits s ht h hunlocked _ rfl rfl rfl

/-- Every call keeps the promises. -/
theorem promised_step (newKey : Nat → Bytes) (s : Session) (ht : Tracks limits s)
    (h : Promised limits s.history) (op : Operation) :
    Promised limits (s.step limits newKey op).history := by
  cases op with
  | tick d => exact h
  | link =>
      unfold Session.step Session.link
      split_ifs with hneeds
      · exact promised_cons_other limits s.history h (.issued s.now _) rfl
      · exact h
  | check presented =>
      exact promised_check limits s ht h presented _ (s.check_checks limits presented)
  | revoke => exact promised_cons_other limits s.history h (.revoked s.now) rfl

/-- After any sequence of calls at times that do not decrease, no interval of
    the length of the window and of a lockout has more than `maxFailures` wrong
    keys, every check during a lockout is answered `Locked`, and no other check
    is, except the one that starts a lockout after enough wrong keys. -/
theorem guessing_rateLimited (newKey : Nat → Bytes) (hmax : 1 ≤ limits.maxFailures)
    (ops : List Operation) :
    Sparse limits (Session.after limits newKey ops).history ∧
      Enforced limits (Session.after limits newKey ops).history ∧
      Justified limits (Session.after limits newKey ops).history := by
  -- What the guard keeps and what was promised go through the run together.
  have hkept : Tracks limits (Session.after limits newKey ops) ∧
      Promised limits (Session.after limits newKey ops).history := by
    refine Runs.run_invariant (Session.step limits newKey)
      (fun s => Tracks limits s ∧ Promised limits s.history) ?_ ops {}
      ⟨tracks_initial limits hmax, promised_nil limits⟩
    intro s op h
    exact ⟨tracks_step limits s newKey hmax h.1 op, promised_step limits newKey s h.1 h.2 op⟩
  have hpos : 0 ≤ limits.maxFailures.toInt := by
    rw [Int32.le_iff_toInt_le] at hmax
    exact le_trans (by decide) hmax
  exact ⟨sparse_of_spaced limits hpos _ hkept.2.spaced, hkept.2.enforced, hkept.2.justified⟩

end Kept

/-- Two wrong keys start a lockout, in which the right one is no use. -/
def lockedSession : Session :=
  Session.after { maxFailures := 2 } (fun n => List.replicate (n + 1) 107)
    [.link, .check [1], .check [2], .tick 3, .check [107]]

theorem guessing_rateLimited_two :
    (Sparse { maxFailures := 2 } lockedSession.history ∧
      Enforced { maxFailures := 2 } lockedSession.history ∧
        Justified { maxFailures := 2 } lockedSession.history) ∧
      lockedSession.history.map Record.isLocked = [true, true, false, false] :=
  ⟨guessing_rateLimited { maxFailures := 2 } _ (by decide) _, by decide⟩

end Service

end ThreadHaul
