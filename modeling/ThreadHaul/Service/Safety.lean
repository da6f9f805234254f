import ThreadHaul.Lib.Transcode
import ThreadHaul.Service.Restrain

/-!
# The Safety of a Target

`SafetyOf`: how risky it is to do something to the processes a target stands
for.

It matches the target against the process table by itself, and not quite as a
command does. A number is compared as text here and as a number there; and a
command acts on the first word of the target, while here the target is taken as
it is. `Plain` is the targets on which that makes no difference:
`inspects_eq_picks`. At any other target no process is found here at all, so
`inspects_eq_false`, whatever the command finds.

## Main definitions

* `Env.Lawful`: What holds of any process table and of the conversions.
* `inspects`: Whether `SafetyOf` looks at a process.
* `safetyOf`: `SafetyOf`.
* `Plain`: Without inner spaces and superfluous zeros.

## Theorems

* `word_of_noSpace`: The first word of a target without inner spaces.
* `inspects_eq_picks`, `inspects_eq_false`: What is found for a plain target, and
  for any other.
* `worst_spec`: The worst of several results.
* `risky_safetyOf_iff`: When a confirmation is called for.
-/

namespace ThreadHaul

namespace Service

open Actuator Telemetry

/-- What holds of any process table and of the conversions: process ids are
    distinct, the names of programs are file names and have no control
    characters, and a control character has no other case. -/
structure Env.Lawful (env : Env) : Prop where
  distinct : (env.snapshot.map ProcessEntry.pid).Nodup
  names : ∀ e ∈ env.snapshot, ∀ u ∈ e.name, 32 ≤ u
  upcase : ∀ u v, u < 32 → env.host.upcase v = env.host.upcase u → v = u
  widen : Transcode.Cuts env.widen

section Definitions

variable (env : Env) (system : SystemFacts)

/-- Whether `SafetyOf` looks at the process. A number is compared as text. -/
def inspects (target : Bytes) (e : ProcessEntry) : Bool :=
  if !target.isEmpty && Decimal.isDigits target then Decimal.decimal e.pid.toNat == target
  else sameName env.host e.name (env.widen target)

/-- What is said about one process of the table. -/
def classify (e : ProcessEntry) : SafetyInfo :=
  classifyProcess env.host system e.pid e.name alwaysProtectedNames

/-- The riskier of two results, the first one if they are equally risky. -/
def worse (worst s : SafetyInfo) : SafetyInfo :=
  if worst.level.rank < s.level.rank then s else worst

/-- The riskiest process that `SafetyOf` looks at. -/
def worst (target : Bytes) : SafetyInfo :=
  (env.snapshot.filter (inspects env target)).foldl
    (fun worst e => worse worst (classify env system e)) {}

/-- `SafetyOf`. A name on the essential list counts even if nothing runs under
    it. -/
def safetyOf (target : Bytes) : SafetyInfo :=
  if !target.isEmpty && Decimal.isDigits target then worst env system target
  else
    alwaysProtectedNames.foldl
      (fun worst n =>
        if sameName env.host n (env.widen target) then
          { worst with
            level := .essential
            reason := wide
              "Essential to Windows: pausing or slowing it can freeze or crash the system." }
        else worst)
      (worst env system target)

end Definitions

/-- The part of a target that a command acts on. -/
def word (target : Bytes) : Bytes := (nextToken target).1

/-- A blank, as `Handle` looks for it in a target. -/
def isBlank (c : UInt8) : Bool := c == 32 || c == 9 || c == 13 || c == 10

/-- A target without spaces before its terminator and without superfluous
    leading zeros. -/
structure Plain (target : Bytes) : Prop where
  noSpace : ∀ c ∈ target.takeWhile (· ≠ 0), isSpace c = false
  noZeros : Decimal.isDigits target = true → target.head? = some 48 → target = [48]

section Words

theorem dropWhile_isSpace (s : Bytes) (h : ∀ c ∈ s.head?, isSpace c = false) :
    s.dropWhile isSpace = s := by
  cases s with
  | nil => rfl
  | cons c s => rw [List.dropWhile_cons_of_neg (Bool.eq_false_iff.mp (h c rfl))]

/-- Without spaces before the terminator, the first word is the target up to a
    space after it. -/
theorem word_of_noSpace (target : Bytes)
    (h : ∀ c ∈ target.takeWhile (· ≠ 0), isSpace c = false) :
    word target = target ∨
      ∃ a b b', 0 ∉ a ∧ target = a ++ 0 :: b ∧ word target = a ++ 0 :: b' := by
  have hne : ∀ a : Bytes, 0 ∉ a → ∀ c ∈ a, decide (c ≠ 0) = true :=
    fun a ha c hc => decide_eq_true (ne_of_mem_of_not_mem hc ha)
  have hword : ∀ a : Bytes, (∀ c ∈ a, isSpace c = false) → ∀ c ∈ a, (!isSpace c) = true :=
    fun a ha c hc => (Bool.not_eq_true' _).mpr (ha c hc)
  -- The first word may go on after the terminator, where spaces are looked for too.
  by_cases hzero : 0 ∈ target
  · right
    obtain ⟨a, b, rfl, ha⟩ := List.eq_append_cons_of_mem hzero
    have htake : (0 :: b).takeWhile (fun c : UInt8 => decide (c ≠ 0)) = [] := rfl
    rw [List.takeWhile_append_of_pos (hne a ha), htake, List.append_nil] at h
    refine ⟨a, b, b.takeWhile fun c => !isSpace c, ha, rfl, ?_⟩
    have hdrop : (a ++ 0 :: b).dropWhile isSpace = a ++ 0 :: b := by
      refine dropWhile_isSpace _ ?_
      cases a with
      | nil => exact fun c hc => by rw [← Option.some.inj hc]; rfl
      | cons c a =>
          exact fun c' hc' => h c' (by rw [← Option.some.inj hc']; exact List.mem_cons_self)
    unfold word nextToken
    dsimp only
    rw [hdrop, List.takeWhile_append_of_pos (hword a h)]
    rfl
  · left
    rw [List.takeWhile_eq_self_iff.mpr (hne target hzero)] at h
    have hdrop : target.dropWhile isSpace = target :=
      dropWhile_isSpace target fun c hc => h c (List.mem_of_mem_head? hc)
    unfold word nextToken
    dsimp only
    rw [hdrop, List.takeWhile_eq_self_iff.mpr (hword target h)]

theorem not_isDigits_of_mem (s : Bytes) (c : UInt8) (hc : c ∈ s)
    (h : Decimal.isDigit c = false) : Decimal.isDigits s = false := by
  refine Bool.eq_false_iff.mpr fun hs => ?_
  rw [List.all_eq_true.mp hs c hc] at h
  cases h

/-- The comparison of names ends at the terminator. -/
theorem sameName_widen (env : Env) (hl : env.Lawful) (name : WString) (s t : Bytes)
    (h : s.takeWhile (· ≠ 0) = t.takeWhile (· ≠ 0)) :
    sameName env.host name (env.widen s) = sameName env.host name (env.widen t) := by
  have hcut : cStr (env.widen s) = cStr (env.widen t) := by
    unfold cStr
    rw [hl.widen.takeWhile_ne_zero, hl.widen.takeWhile_ne_zero, h]
  unfold sameName namesEqualIgnoreCase
  rw [hcut]

/-- At a plain target `SafetyOf` looks at the processes a command selects. -/
theorem inspects_eq_picks (env : Env) (hl : env.Lawful) (target : Bytes) (hne : target ≠ [])
    (hplain : Plain target) (e : ProcessEntry) :
    inspects env target e = picks env (word target) e := by
  have hempty : target.isEmpty = false := by
    cases target with
    | nil => exact absurd rfl hne
    | cons c target => rfl
  unfold inspects picks
  rw [hempty, Bool.not_false, Bool.true_and]
  rcases word_of_noSpace target hplain.noSpace with hword | ⟨a, b, b', ha, htarget, hword⟩
  · rw [hword]
    -- A number is compared as text here and as a number there; they differ in leading zeros.
    by_cases hdigits : Decimal.isDigits target = true
    · rw [if_pos hdigits, if_pos hdigits, Bool.eq_iff_iff, beq_iff_eq, beq_iff_eq]
      constructor
      · intro h
        rw [← h, Decimal.value_decimal]
      · intro h
        rw [h]
        exact (Decimal.decimal_value_iff target hdigits hne).mpr (hplain.noZeros hdigits)
    · rw [if_neg hdigits, if_neg hdigits]
  · -- The terminator is no digit, and the names are equal up to it.
    have hzero : ∀ s : Bytes, Decimal.isDigits (a ++ 0 :: s) = false := fun s =>
      not_isDigits_of_mem _ 0 (List.mem_append_right _ List.mem_cons_self) (by decide)
    have htake : ∀ s : Bytes, (a ++ 0 :: s).takeWhile (· ≠ 0) = a := by
      intro s
      rw [List.takeWhile_append_of_pos fun c hc => decide_eq_true (ne_of_mem_of_not_mem hc ha)]
      exact List.append_nil a
    rw [hword, htarget, hzero, hzero, if_neg Bool.false_ne_true, if_neg Bool.false_ne_true]
    refine sameName_widen env hl e.name _ _ ?_
    rw [htake, htake]

theorem lt_of_isSpace (c : UInt8) (h : isSpace c = true) (hblank : isBlank c = false) :
    c < 32 := by
  revert c
  refine forall_byte _ ?_
  decide +kernel

theorem not_isDigit_of_isSpace (c : UInt8) (h : isSpace c = true) :
    Decimal.isDigit c = false := by
  revert c
  refine forall_byte _ ?_
  decide +kernel

/-- A name without control characters is no text that has one. -/
theorem sameName_eq_false (env : Env) (hl : env.Lawful) (name : WString)
    (hname : ∀ u ∈ name, 32 ≤ u) (s : Bytes) (c : UInt8) (hc : c ∈ s.takeWhile (· ≠ 0))
    (hlt : c < 32) : sameName env.host name (env.widen s) = false := by
  have h128 : c < 128 := UInt8.lt_trans hlt (by decide)
  have hmem : c.toUInt16 ∈ cStr (env.widen s) := by
    unfold cStr
    rw [hl.widen.takeWhile_ne_zero]
    exact hl.widen.mem c h128 _ hc
  have hcontrol : c.toUInt16 < 32 := by
    rw [UInt8.lt_iff_toNat_lt] at hlt
    rw [UInt16.lt_iff_toNat_lt, UInt8.toNat_toUInt16]
    exact hlt
  refine Bool.eq_false_iff.mpr fun hsame => ?_
  unfold sameName namesEqualIgnoreCase at hsame
  -- Equal names fold to the same units, and a control character folds from no other.
  have hup : env.host.upcase c.toUInt16 ∈ (cStr name).map env.host.upcase := by
    rw [eq_of_beq hsame]
    exact List.mem_map_of_mem hmem
  obtain ⟨u, hu, heq⟩ := List.mem_map.mp hup
  have hge := hname u ((List.takeWhile_prefix _).subset hu)
  rw [hl.upcase _ u hcontrol heq] at hge
  rw [UInt16.le_iff_toNat_le] at hge
  rw [UInt16.lt_iff_toNat_lt] at hcontrol
  omega

/-- A target that is not plain has a control character, which no name has, or
    it is a number that is not the text of its value. -/
theorem inspects_eq_false (env : Env) (hl : env.Lawful) (target : Bytes)
    (hblank : ∀ c ∈ target, isBlank c = false) (hplain : ¬ Plain target) (e : ProcessEntry)
    (he : e ∈ env.snapshot) : inspects env target e = false := by
  unfold inspects
  -- It is not plain for its zeros, or for a space.
  by_cases hspace : ∀ c ∈ target.takeWhile (· ≠ 0), isSpace c = false
  · have hzeros : ¬ (Decimal.isDigits target = true → target.head? = some 48 → target = [48]) :=
      fun h => hplain ⟨hspace, h⟩
    push Not at hzeros
    obtain ⟨hdigits, hhead, hne⟩ := hzeros
    have hnil : target ≠ [] := by
      intro h
      rw [h] at hhead
      cases hhead
    rw [hdigits, Bool.and_true]
    cases hempty : target.isEmpty with
    | true => exact absurd (List.isEmpty_iff.mp hempty) hnil
    | false =>
        refine Bool.eq_false_iff.mpr fun h => hne ?_
        have htext : Decimal.decimal e.pid.toNat = target := eq_of_beq h
        refine (Decimal.decimal_value_iff target hdigits hnil).mp ?_ hhead
        rw [← htext, Decimal.value_decimal]
  · push Not at hspace
    obtain ⟨c, hc, hsp⟩ := hspace
    have hsp : isSpace c = true := Bool.eq_true_of_not_eq_false hsp
    have hmem : c ∈ target := (List.takeWhile_prefix _).subset hc
    have hlt := lt_of_isSpace c hsp (hblank c hmem)
    rw [not_isDigits_of_mem target c hmem (not_isDigit_of_isSpace c hsp), Bool.and_false,
      if_neg Bool.false_ne_true]
    exact sameName_eq_false env hl e.name (hl.names e he) target c hc hlt

/-- `SafetyOf` looks at every process that a command selects exactly if the
    target is plain, or selects nothing. -/
theorem inspects_of_picks_iff (env : Env) (hl : env.Lawful) (target : Bytes) (hne : target ≠ [])
    (hblank : ∀ c ∈ target, isBlank c = false) :
    (∀ e ∈ env.snapshot, picks env (word target) e = true → inspects env target e = true) ↔
      Plain target ∨ ∀ e ∈ env.snapshot, picks env (word target) e = false := by
  constructor
  · intro h
    -- A target that is not plain is inspected as no process at all.
    by_cases hplain : Plain target
    · exact Or.inl hplain
    · refine Or.inr fun e he => Bool.eq_false_iff.mpr fun hpicks => ?_
      have hinspects := h e he hpicks
      rw [inspects_eq_false env hl target hblank hplain e he] at hinspects
      cases hinspects
  · intro h e he hpicks
    rcases h with hplain | hnone
    · rw [inspects_eq_picks env hl target hne hplain]
      exact hpicks
    · rw [hnone e he] at hpicks
      cases hpicks

end Words

section Levels

theorem rank_essential (level : ProcessSafety) : level.rank = 3 ↔ level = .essential := by
  cases level <;> decide

theorem rank_risky (level : ProcessSafety) : 1 ≤ level.rank ∧ level.rank ≤ 2 ↔ level.Risky := by
  cases level <;> decide

theorem rank_le (level : ProcessSafety) : level.rank ≤ 3 := by
  cases level <;> decide

/-- The worst of several results is one of them, and none is riskier. -/
theorem worst_spec (info : ProcessEntry → SafetyInfo) (entries : List ProcessEntry)
    (first : SafetyInfo) :
    let last := entries.foldl (fun worst e => worse worst (info e)) first
    first.level.rank ≤ last.level.rank ∧
      (∀ e ∈ entries, (info e).level.rank ≤ last.level.rank) ∧
      (last = first ∨ ∃ e ∈ entries, last = info e) := by
  induction entries generalizing first with
  | nil => exact ⟨Nat.le_refl _, List.forall_mem_nil _, Or.inl rfl⟩
  | cons e entries ih =>
      obtain ⟨hfirst, hentries, hlast⟩ := ih (worse first (info e))
      -- One comparison, before those of the other entries.
      have hworse : first.level.rank ≤ (worse first (info e)).level.rank ∧
          (info e).level.rank ≤ (worse first (info e)).level.rank ∧
          (worse first (info e) = first ∨ worse first (info e) = info e) := by
        unfold worse
        by_cases hlt : first.level.rank < (info e).level.rank
        · rw [if_pos hlt]
          exact ⟨by omega, Nat.le_refl _, Or.inr rfl⟩
        · rw [if_neg hlt]
          exact ⟨Nat.le_refl _, by omega, Or.inl rfl⟩
      rw [List.foldl_cons]
      refine ⟨hworse.1.trans hfirst, ?_, ?_⟩
      · rw [List.forall_mem_cons]
        exact ⟨hworse.2.1.trans hfirst, hentries⟩
      · rcases hlast with hlast | ⟨e', he', hlast⟩
        · rcases hworse.2.2 with heq | heq
          · exact Or.inl (hlast.trans heq)
          · exact Or.inr ⟨e, List.mem_cons_self, hlast.trans heq⟩
        · exact Or.inr ⟨e', List.mem_cons_of_mem _ he', hlast⟩

variable (env : Env) (system : SystemFacts)

/-- The worst result is risky if one is and none is essential. -/
theorem risky_worst_iff (target : Bytes) :
    (worst env system target).level.Risky ↔
      (∃ e ∈ env.snapshot, inspects env target e = true ∧ (classify env system e).level.Risky) ∧
        ∀ e ∈ env.snapshot, inspects env target e = true →
          (classify env system e).level ≠ .essential := by
  obtain ⟨_, hle, hlast⟩ := worst_spec (classify env system)
    (env.snapshot.filter (inspects env target)) {}
  change (∀ e ∈ env.snapshot.filter (inspects env target),
    _ ≤ (worst env system target).level.rank) at hle
  change worst env system target = {} ∨ _ at hlast
  simp only [List.mem_filter] at hle hlast
  rw [← rank_risky]
  constructor
  · -- A rank between nothing and essential belongs to an entry.
    rintro ⟨hpos, htwo⟩
    constructor
    · rcases hlast with hlast | ⟨e, ⟨he, hinspects⟩, hlast⟩
      · rw [hlast] at hpos
        exact absurd hpos (by decide)
      · change worst env system target = classify env system e at hlast
        rw [hlast] at hpos htwo
        exact ⟨e, he, hinspects, (rank_risky _).mp ⟨hpos, htwo⟩⟩
    · intro e he hinspects hessential
      have h := hle e ⟨he, hinspects⟩
      rw [hessential] at h
      have hthree : ProcessSafety.essential.rank = 3 := rfl
      omega
  · rintro ⟨⟨e, he, hinspects, hrisky⟩, hnone⟩
    have h := hle e ⟨he, hinspects⟩
    rw [← rank_risky] at hrisky
    refine ⟨by omega, ?_⟩
    rcases hlast with hlast | ⟨e', ⟨he', hinspects'⟩, hlast⟩
    · rw [hlast]
      decide
    · change worst env system target = classify env system e' at hlast
      -- The worst of the entries is at least the risky one, and no essential one.
      have hne := hnone e' he' hinspects'
      have hthree := rank_le (classify env system e').level
      rw [Ne, ← rank_essential] at hne
      rw [hlast]
      omega

/-- A name on the essential list makes a target essential, whatever was found. -/
theorem level_foldl_essential (names : List WString) (test : WString → Bool) (reason : WString)
    (first : SafetyInfo) :
    (names.foldl (fun worst n =>
      if test n then { worst with level := .essential, reason := reason } else worst)
      first).level = if names.any test then .essential else first.level := by
  induction names generalizing first with
  | nil => rfl
  | cons n names ih =>
      rw [List.foldl_cons, ih, List.any_cons]
      -- One name on the list is enough, and the later ones do not undo it.
      cases test n with
      | true =>
          rw [if_pos rfl, Bool.true_or, if_pos rfl]
          split <;> rfl
      | false => rw [if_neg Bool.false_ne_true, Bool.false_or]

/-- A target is essential for its own sake if the name is on the list. -/
def listed (target : Bytes) : Bool :=
  alwaysProtectedNames.any fun n => sameName env.host n (env.widen target)

theorem level_safetyOf (target : Bytes) :
    (safetyOf env system target).level =
      if !target.isEmpty && Decimal.isDigits target then (worst env system target).level
      else if listed env target then .essential
      else (worst env system target).level := by
  unfold safetyOf
  split
  · rfl
  · exact level_foldl_essential _ (fun n => sameName env.host n (env.widen target)) _ _

/-- The target is the name of a process that is essential for its process id. -/
def Masked (target : Bytes) : Prop :=
  Decimal.isDigits target = false ∧ ∃ e ∈ env.snapshot,
    sameName env.host e.name (env.widen target) = true ∧
      (e.pid ≤ 4 ∨ e.pid = env.host.currentProcessId)

theorem sameName_iff (host : Host) (a b : WString) :
    sameName host a b = true ↔ (cStr a).map host.upcase = (cStr b).map host.upcase := beq_iff_eq

/-- Processes of one name are both on the essential list, or neither is. -/
theorem listed_congr (a b : WString) (h : sameName env.host a b = true) :
    alwaysProtectedNames.any (namesEqualIgnoreCase env.host a) =
      alwaysProtectedNames.any (namesEqualIgnoreCase env.host b) := by
  rw [sameName_iff] at h
  unfold namesEqualIgnoreCase
  rw [h]

theorem listed_eq (target : Bytes) :
    listed env target =
      alwaysProtectedNames.any (namesEqualIgnoreCase env.host (env.widen target)) := by
  unfold listed
  refine congrArg alwaysProtectedNames.any (funext fun n => ?_)
  rw [Bool.eq_iff_iff, sameName_iff, eq_comm]
  exact beq_iff_eq.symm

theorem not_essential_of_risky (level : ProcessSafety) (h : level.Risky) :
    level ≠ .essential := by
  rcases h with rfl | rfl <;> decide

/-- A number is the id of one process. -/
theorem eq_of_inspects (hl : env.Lawful) (target : Bytes) (hempty : target.isEmpty = false)
    (hdigits : Decimal.isDigits target = true) (e e' : ProcessEntry) (he : e ∈ env.snapshot)
    (he' : e' ∈ env.snapshot) (h : inspects env target e = true)
    (h' : inspects env target e' = true) : e' = e := by
  rw [inspects, hempty, hdigits, Bool.not_false, Bool.true_and, if_pos rfl, beq_iff_eq] at h h'
  have hpid : e'.pid = e.pid := by
    rw [← UInt32.toNat_inj, ← Decimal.value_decimal e'.pid.toNat, h', ← h, Decimal.value_decimal]
  exact List.inj_on_of_nodup_map hl.distinct he' he hpid

/-- A confirmation that is called for comes from a process that `SafetyOf` finds, and then
    no process it finds is essential. -/
theorem plain_of_risky_safetyOf (hl : env.Lawful) (target : Bytes)
    (hblank : ∀ c ∈ target, isBlank c = false)
    (hsafety : (safetyOf env system target).level.Risky) : Plain target ∧ ¬ Masked env target := by
  rw [level_safetyOf] at hsafety
  -- Neither a match on the list nor an essential entry is risky, so the worst entry is.
  have hworst : (worst env system target).level.Risky := by
    revert hsafety
    split
    · exact id
    · split
      · exact fun h => absurd rfl (not_essential_of_risky _ h)
      · exact id
  rw [risky_worst_iff] at hworst
  obtain ⟨⟨e', he', hinspects, _⟩, hnone⟩ := hworst
  constructor
  · by_contra hplain
    rw [inspects_eq_false env hl target hblank hplain e' he'] at hinspects
    cases hinspects
  · rintro ⟨hdigits, e'', he'', hname, hpid⟩
    refine hnone e'' he'' ?_ ?_
    · rw [inspects, hdigits, Bool.and_false, if_neg Bool.false_ne_true]
      exact hname
    · exact (level_eq_essential_iff _ _ _ _ _).mpr (hpid.imp_right Or.inl)

/-- If a command finds a risky process, a confirmation is called for exactly if
    `SafetyOf` finds the same processes and none is essential. -/
theorem risky_safetyOf_iff (hl : env.Lawful) (target : Bytes) (hne : target ≠ [])
    (hblank : ∀ c ∈ target, isBlank c = false) (e : ProcessEntry) (he : e ∈ env.snapshot)
    (hpicks : picks env (word target) e = true) (hrisky : (classify env system e).level.Risky) :
    (safetyOf env system target).level.Risky ↔ Plain target ∧ ¬ Masked env target := by
  refine ⟨plain_of_risky_safetyOf env system hl target hblank, ?_⟩
  rintro ⟨hplain, hmasked⟩
  have hempty : target.isEmpty = false :=
    Bool.eq_false_iff.mpr fun h => hne (List.isEmpty_iff.mp h)
  have hordinary := not_essential_of_risky _ hrisky
  unfold classify at hordinary
  rw [Ne, level_eq_essential_iff, not_or, not_or] at hordinary
  rw [level_safetyOf, hempty, Bool.not_false, Bool.true_and]
  have hinspects : inspects env target e = true := by
    rw [inspects_eq_picks env hl target hne hplain]
    exact hpicks
  have hworst : (∀ e' ∈ env.snapshot, inspects env target e' = true →
      (classify env system e').level ≠ .essential) →
      (worst env system target).level.Risky := by
    intro hnone
    exact (risky_worst_iff env system target).mpr ⟨⟨e, he, hinspects, hrisky⟩, hnone⟩
  by_cases hdigits : Decimal.isDigits target = true
  · -- A number is the id of one process, which is the risky one.
    rw [if_pos hdigits]
    refine hworst ?_
    intro e' he' hinspects'
    rw [eq_of_inspects env hl target hempty hdigits e e' he he' hinspects hinspects']
    exact not_essential_of_risky _ hrisky
  · -- A name that is on the list is the name of the risky process, too.
    have hfalse := Bool.eq_false_iff.mpr hdigits
    rw [inspects, hfalse, Bool.and_false, if_neg Bool.false_ne_true] at hinspects
    have hlisted : alwaysProtectedNames.any
        (namesEqualIgnoreCase env.host (env.widen target)) = false := by
      rw [← listed_congr env e.name (env.widen target) hinspects]
      exact Bool.eq_false_iff.mpr hordinary.2.2
    rw [if_neg hdigits, listed_eq, hlisted, if_neg Bool.false_ne_true]
    refine hworst ?_
    intro e' he' hinspects' hessential
    rw [inspects, hfalse, Bool.and_false, if_neg Bool.false_ne_true] at hinspects'
    rcases (level_eq_essential_iff _ _ _ _ _).mp hessential with hpid | hpid | hname
    · exact hmasked ⟨hfalse, e', he', hinspects', Or.inl hpid⟩
    · exact hmasked ⟨hfalse, e', he', hinspects', Or.inr hpid⟩
    · rw [listed_congr env e'.name (env.widen target) hinspects', hlisted] at hname
      cases hname

end Levels

end Service

end ThreadHaul
