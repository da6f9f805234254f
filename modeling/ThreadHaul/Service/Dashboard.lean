import ThreadHaul.Service.Safety

/-!
# The Dashboard

`Handle` at `POST /api/command`: a request to do something to a process, and
the confirmation it takes to throttle or suspend a risky one.

The endpoint asks `SafetyOf` about the target, and passes the same target on to
`HandleCommand`. Whether the two mean the same processes is the whole question,
and `guarded_iff` says exactly when a risky process is restrained without a
confirmation.

## Main definitions

* `apiCommand`: The endpoint.
* `Guarded`: No risky process is restrained without a confirmation.
* `Covered`: The condition under which that is so.

## Theorems

* `mem_forced_iff`: The calls of `ForceState` that a target leads to.
* `apiCommand_unconfirmed`: What the endpoint does without a confirmation.
* `restrained_cases`: How a request can come to restrain a process.
* `guarded_iff`: When no risky process is restrained without a confirmation.
-/

namespace ThreadHaul

namespace Service

open Actuator Telemetry Json

/-- A `POST` to `/api/command` that has passed the check of the session. The
    body is the value it parses to. -/
structure Request where
  contentType : Bytes
  body : Json

/-- The response, and what `HandleCommand` did if it was called. -/
structure Handled where
  status : Nat := 200
  body : Json
  command : Option CommandResult := none

/-- `Error`. -/
def failed (status : Nat) (message : Bytes) : Handled where
  status := status
  body := .object [(ascii "message", .string message), (ascii "ok", .boolean false)]

/-- The response that asks for a confirmation. -/
def needsConfirmation (s : SafetyInfo) : Handled where
  body := .object [(ascii "message", .string (narrow s.reason)),
    (ascii "needs_confirmation", .boolean true), (ascii "ok", .boolean false),
    (ascii "safety", .string s.level.name)]

/-- A member of the body, whose type may be wrong. -/
def member {α : Type} (x : Except JsonError α) : Except Escape α := x.mapError Escape.json

/-- The verbs the endpoint accepts. -/
def dashboardVerbs : List Bytes :=
  [ascii "throttle", ascii "suspend", ascii "resume", ascii "release", ascii "exempt"]

/-- The verbs that need no confirmation. -/
def harmlessVerbs : List Bytes := [ascii "release", ascii "resume", ascii "exempt"]

/-- The verb needs no confirmation, or the body has it. -/
def waives (verb : Bytes) (body : Json) : Except Escape Bool :=
  if harmlessVerbs.contains verb then .ok true
  else member (body.value getBool (ascii "confirm") false)

/-- `Handle` at `/api/command`. -/
def apiCommand (env : Env) (system : SystemFacts) (d : Daemon) (w : World) (req : Request) :
    Except Escape Handled :=
  if !(ascii "application/json").isPrefixOf req.contentType then
    return failed 400 (ascii "Content-Type must be application/json")
  else if !req.body.isObject then return failed 400 (ascii "body must be a JSON object")
  else do
    let verb ← member (req.body.value getString (ascii "command") [])
    let target ← member (req.body.value getString (ascii "target") [])
    if !dashboardVerbs.contains verb then
      return failed 400 (ascii "command must be throttle, suspend, resume, release or exempt")
    else if target.isEmpty || target.any isBlank then
      return failed 400 (ascii "target must be a PID or an executable name")
    else do
      let waived ← waives verb req.body
      if !waived && (safetyOf env system target).level.Risky then
        return needsConfirmation (safetyOf env system target)
      else do
        let r ← handleCommand env d w (verb ++ ascii " " ++ target)
        return { body := r.reply, command := some r }

section Guard

variable (env : Env) (system : SystemFacts) (d : Daemon) (w : World) (req : Request)

/-- The body of the request carries the confirmation. -/
def Confirmed : Prop := req.body.value getBool (ascii "confirm") false = .ok true

/-- A process of level system or service is throttled or suspended only if the
    body of the request carries the confirmation. -/
def Guarded : Prop :=
  ∀ a, apiCommand env system d w req = .ok a → ∀ r, a.command = some r →
    ∀ e state, (e, state) ∈ r.effect.forced → state ≠ .normal →
      (classify env system e).level.Risky → Confirmed req

/-- The request asks for processes to be restrained, and is not confirmed. -/
structure Unconfirmed (verb : Manage) (target : Bytes) : Prop where
  contentType : (ascii "application/json").isPrefixOf req.contentType = true
  isObject : req.body.isObject = true
  command : req.body.value getString (ascii "command") [] = .ok verb.name
  target_eq : req.body.value getString (ascii "target") [] = .ok target
  restrains : verb.state ≠ .normal
  nonempty : target ≠ []
  noBlank : ∀ c ∈ target, isBlank c = false
  confirm : req.body.value getBool (ascii "confirm") false = .ok false

/-- If an unconfirmed request stands for a risky process that may be restrained,
    its target is plain, and it is not the name of a process that is essential
    for its process id. -/
def Covered : Prop :=
  ∀ verb target, Unconfirmed req verb target →
    ∀ e ∈ env.snapshot, picks env (word target) e = true → forces env.host d verb e = true →
      (classify env system e).level.Risky → Plain target ∧ ¬ Masked env target

/-- The calls of `ForceState` that a target leads to. -/
theorem mem_forced_iff (hl : env.Lawful) (verb : Manage) (target : Bytes)
    (hne : word target ≠ []) (r : CommandResult)
    (h : handleCommand env d w (verb.name ++ 32 :: target) = .ok r) (e : ProcessEntry)
    (state : ProcessState) :
    (e, state) ∈ r.effect.forced ↔
      (e ∈ env.snapshot ∧ picks env (word target) e = true) ∧
        forces env.host d verb e = true ∧ verb.state = state := by
  rw [handleCommand_manage] at h
  rw [handleManage_forced env d w hl.distinct verb (word target) hne r h, List.mem_map]
  simp only [List.mem_filter, Prod.mk.injEq]
  -- The list of forced processes is the list of targets without those that are refused.
  constructor
  · rintro ⟨e', ⟨hpicks, hforces⟩, rfl, hstate⟩
    exact ⟨hpicks, hforces, hstate⟩
  · rintro ⟨hpicks, hforces, hstate⟩
    exact ⟨e, ⟨hpicks, hforces⟩, rfl, hstate⟩

/-- Without a first word nothing is done. -/
theorem word_ne_nil_of_mem_forced (verb : Manage) (target : Bytes) (r : CommandResult)
    (h : handleCommand env d w (verb.name ++ 32 :: target) = .ok r)
    (call : ProcessEntry × ProcessState) (hcall : call ∈ r.effect.forced) : word target ≠ [] := by
  intro hnil
  rw [handleCommand_manage] at h
  change handleManage env d w verb (word target) = .ok r at h
  rw [hnil] at h
  rw [handleManage_nil_forced env d w verb r h] at hcall
  exact absurd hcall List.not_mem_nil

/-- No number and no word at all stands for a risky process: the id would be
    zero. -/
theorem word_ne_nil_of_picks (target : Bytes) (e : ProcessEntry)
    (hpicks : picks env (word target) e = true) (hrisky : (classify env system e).level.Risky) :
    word target ≠ [] := by
  intro hnil
  rw [hnil] at hpicks
  have hzero : e.pid.toNat = 0 := eq_of_beq hpicks
  refine not_essential_of_risky _ hrisky ((level_eq_essential_iff _ _ _ _ _).mpr (Or.inl ?_))
  rw [UInt32.le_iff_toNat_le]
  omega

theorem member_eq_ok {α : Type} (x : Except JsonError α) (a : α) :
    member x = .ok a ↔ x = .ok a := by
  -- Only the kind of the error is changed.
  cases x with
  | error e =>
      constructor
      · intro h
        cases h
      · intro h
        cases h
  | ok b =>
      constructor
      · intro h
        rw [Except.ok.inj h]
      · intro h
        rw [Except.ok.inj h]
        rfl

theorem not_harmless (verb : Manage) (h : verb.state ≠ .normal) :
    harmlessVerbs.contains verb.name = false := by
  cases verb with
  | throttle => decide
  | suspend => decide
  | resume => exact absurd rfl h
  | release => exact absurd rfl h

/-- Without a confirmation everything depends on what `SafetyOf` finds. -/
theorem apiCommand_unconfirmed (verb : Manage) (target : Bytes)
    (h : Unconfirmed req verb target) :
    apiCommand env system d w req =
      if (safetyOf env system target).level.Risky then
        .ok (needsConfirmation (safetyOf env system target))
      else do
        let r ← handleCommand env d w (verb.name ++ 32 :: target)
        return { body := r.reply, command := some r } := by
  -- The verb is not harmless and there is no confirmation.
  have hwaives : waives verb.name req.body = .ok false := by
    rw [waives, not_harmless verb h.restrains, if_neg Bool.false_ne_true, h.confirm]
    rfl
  have hverb : dashboardVerbs.contains verb.name = true := by
    cases verb <;> decide
  have htarget : (target.isEmpty || target.any isBlank) = false := by
    rw [Bool.or_eq_false_iff]
    constructor
    · exact Bool.eq_false_iff.mpr fun hempty => h.nonempty (List.isEmpty_iff.mp hempty)
    · rw [List.any_eq_false]
      exact fun c hc => Bool.eq_false_iff.mp (h.noBlank c hc)
  have hline : verb.name ++ ascii " " ++ target = verb.name ++ 32 :: target := by
    rw [List.append_assoc]
    rfl
  unfold apiCommand
  rw [h.contentType, h.isObject, h.command, h.target_eq]
  dsimp only [member, Except.mapError, bind, Except.bind]
  rw [hverb, htarget, hwaives, hline]
  simp only [Bool.not_true, Bool.false_eq_true, if_false, Bool.not_false, Bool.true_and,
    decide_eq_true_eq]
  rfl

/-- What the endpoint passes on: a verb it accepts, a target without blanks, and
    a confirmation unless the verb needs none or the target is not risky. -/
structure PassesOn (verb target : Bytes) : Prop where
  contentType : (ascii "application/json").isPrefixOf req.contentType = true
  isObject : req.body.isObject = true
  command : req.body.value getString (ascii "command") [] = .ok verb
  target_eq : req.body.value getString (ascii "target") [] = .ok target
  accepted : verb ∈ dashboardVerbs
  nonempty : target ≠ []
  noBlank : ∀ c ∈ target, isBlank c = false
  waived : waives verb req.body = .ok true ∨
    waives verb req.body = .ok false ∧ ¬ (safetyOf env system target).level.Risky

theorem passesOn_of_command (a : Handled) (ha : apiCommand env system d w req = .ok a)
    (r : CommandResult) (hr : a.command = some r) :
    ∃ verb target, PassesOn env system req verb target ∧
      handleCommand env d w (verb ++ 32 :: target) = .ok r := by
  unfold apiCommand at ha
  -- A request that is refused leads to no command.
  have hnone : ∀ x : Handled, x.command = none → (.ok x : Except Escape Handled) ≠ .ok a := by
    intro x hx heq
    rw [← Except.ok.inj heq, hx] at hr
    cases hr
  cases hcontent : (ascii "application/json").isPrefixOf req.contentType with
  | false =>
      rw [hcontent] at ha
      exact absurd ha (hnone _ rfl)
  | true =>
  cases hobject : req.body.isObject with
  | false =>
      rw [hcontent, hobject] at ha
      exact absurd ha (hnone _ rfl)
  | true =>
  rw [hcontent, hobject, Bool.not_true, if_neg Bool.false_ne_true, if_neg Bool.false_ne_true] at ha
  obtain ⟨verb, hverb, ha⟩ := (bind_eq_ok_iff _ _ _).mp ha
  obtain ⟨target, htarget, ha⟩ := (bind_eq_ok_iff _ _ _).mp ha
  rw [member_eq_ok] at hverb htarget
  cases haccepted : dashboardVerbs.contains verb with
  | false =>
      rw [haccepted] at ha
      exact absurd ha (hnone _ rfl)
  | true =>
  cases hblank : target.isEmpty || target.any isBlank with
  | true =>
      rw [haccepted, hblank] at ha
      exact absurd ha (hnone _ rfl)
  | false =>
  rw [haccepted, hblank, Bool.not_true, if_neg Bool.false_ne_true, if_neg Bool.false_ne_true] at ha
  obtain ⟨waived, hwaived, ha⟩ := (bind_eq_ok_iff _ _ _).mp ha
  rw [Bool.or_eq_false_iff, List.any_eq_false] at hblank
  by_cases hask : (!waived && decide (safetyOf env system target).level.Risky) = true
  · rw [if_pos hask] at ha
    exact absurd ha (hnone _ rfl)
  · rw [if_neg hask] at ha
    obtain ⟨r', hr', ha⟩ := (bind_eq_ok_iff _ _ _).mp ha
    rw [← Except.ok.inj ha] at hr
    rw [Option.some.inj hr, List.append_assoc] at hr'
    refine ⟨verb, target, ?_, hr'⟩
    refine ⟨hcontent, hobject, hverb, htarget, List.contains_iff_mem.mp haccepted, ?_, ?_, ?_⟩
    · intro hnil
      rw [hnil] at hblank
      exact absurd hblank.1 (by decide)
    · exact fun c hc => Bool.eq_false_iff.mpr (hblank.2 c hc)
    · cases waived with
      | true => exact Or.inl hwaived
      | false => exact Or.inr ⟨hwaived, fun hrisky => hask (by rw [decide_eq_true hrisky]; rfl)⟩

theorem cases_of_accepted (verb : Bytes) (h : verb ∈ dashboardVerbs) :
    verb = ascii "exempt" ∨ ∃ m : Manage, verb = m.name := by
  simp only [dashboardVerbs, List.mem_cons, List.not_mem_nil, or_false] at h
  rcases h with h | h | h | h | h
  · exact Or.inr ⟨.throttle, h⟩
  · exact Or.inr ⟨.suspend, h⟩
  · exact Or.inr ⟨.resume, h⟩
  · exact Or.inr ⟨.release, h⟩
  · exact Or.inl h

/-- A request that restrains a process is confirmed, or it is not and its target
    is not risky. -/
theorem restrained_cases (hl : env.Lawful) (a : Handled)
    (ha : apiCommand env system d w req = .ok a) (r : CommandResult) (hr : a.command = some r)
    (e : ProcessEntry) (state : ProcessState) (hmem : (e, state) ∈ r.effect.forced)
    (hstate : state ≠ .normal) :
    Confirmed req ∨ ∃ verb target, Unconfirmed req verb target ∧
      ¬ (safetyOf env system target).level.Risky ∧
      handleCommand env d w (verb.name ++ 32 :: target) = .ok r := by
  obtain ⟨verb, target, hpass, hcommand⟩ :=
    passesOn_of_command env system d w req a ha r hr
  rcases cases_of_accepted verb hpass.accepted with rfl | ⟨m, rfl⟩
  · rw [handleCommand_exempt_forced env d w target r hcommand] at hmem
    exact absurd hmem List.not_mem_nil
  · have hword := word_ne_nil_of_mem_forced env d w m target r hcommand _ hmem
    obtain ⟨_, _, hm⟩ := (mem_forced_iff env d w hl m target hword r hcommand e state).mp hmem
    have hrestrains : m.state ≠ .normal := by
      rw [hm]
      exact hstate
    -- The verb restrains, so only a confirmation waives the question.
    have hwaives := hpass.waived
    rw [waives, not_harmless m hrestrains, if_neg Bool.false_ne_true, member_eq_ok,
      member_eq_ok] at hwaives
    rcases hwaives with hconfirmed | ⟨hunconfirmed, hsafety⟩
    · exact Or.inl hconfirmed
    · refine Or.inr ⟨m, target, ?_, hsafety, hcommand⟩
      exact ⟨hpass.contentType, hpass.isObject, hpass.command, hpass.target_eq, hrestrains,
        hpass.nonempty, hpass.noBlank, hunconfirmed⟩

/-- An unconfirmed request restrains a risky process that its target stands for
    if `SafetyOf` does not find the target risky. -/
theorem not_guarded (hl : env.Lawful) (verb : Manage) (target : Bytes)
    (hun : Unconfirmed req verb target) (e : ProcessEntry) (he : e ∈ env.snapshot)
    (hpicks : picks env (word target) e = true) (hforces : forces env.host d verb e = true)
    (hrisky : (classify env system e).level.Risky)
    (hsafety : ¬ (safetyOf env system target).level.Risky) : ¬ Guarded env system d w req := by
  have hword := word_ne_nil_of_picks env system target e hpicks hrisky
  obtain ⟨r, hr⟩ := handleManage_returns env d w verb (word target) e he hpicks
  have hcommand : handleCommand env d w (verb.name ++ 32 :: target) = .ok r :=
    (handleCommand_manage env d w verb target).trans hr
  -- Not asked for a confirmation, the request is handed to `HandleCommand`.
  have hhandled : apiCommand env system d w req = .ok { body := r.reply, command := some r } := by
    rw [apiCommand_unconfirmed env system d w req verb target hun, if_neg hsafety, hcommand]
    rfl
  intro hguarded
  have hmem := (mem_forced_iff env d w hl verb target hword r hcommand e verb.state).mpr
    ⟨⟨he, hpicks⟩, hforces, rfl⟩
  have hconfirmed := hguarded _ hhandled r rfl e verb.state hmem hun.restrains hrisky
  rw [Confirmed, hun.confirm] at hconfirmed
  cases hconfirmed

/-- No risky process is restrained without a confirmation exactly if, in an
    unconfirmed request that stands for one, the target is plain and does not
    mask it. And of a target that is accepted, `SafetyOf` looks at every process that a
    command selects exactly if it is plain, or selects nothing. -/
theorem guarded_iff (hl : env.Lawful) :
    (Guarded env system d w req ↔ Covered env system d req) ∧
      ∀ target : Bytes, target ≠ [] → (∀ c ∈ target, isBlank c = false) →
        ((∀ e ∈ env.snapshot, picks env (word target) e = true → inspects env target e = true) ↔
          Plain target ∨ ∀ e ∈ env.snapshot, picks env (word target) e = false) := by
  refine ⟨⟨?_, ?_⟩, inspects_of_picks_iff env hl⟩
  · intro hguarded verb target hun e he hpicks hforces hrisky
    rw [← risky_safetyOf_iff env system hl target hun.nonempty hun.noBlank e he hpicks hrisky]
    -- A request that inspects the process as harmless would be carried out unconfirmed.
    by_contra hsafety
    exact not_guarded env system d w req hl verb target hun e he hpicks hforces hrisky hsafety
      hguarded
  · intro hcovered a ha r hr e state hmem hstate hrisky
    rcases restrained_cases env system d w req hl a ha r hr e state hmem hstate with
      hconfirmed | ⟨verb, target, hun, hsafety, hcommand⟩
    · exact hconfirmed
    · have hword := word_ne_nil_of_mem_forced env d w verb target r hcommand _ hmem
      obtain ⟨⟨he, hpicks⟩, hforces, _⟩ :=
        (mem_forced_iff env d w hl verb target hword r hcommand e state).mp hmem
      have hplain := hcovered verb target hun e he hpicks hforces hrisky
      exact absurd ((risky_safetyOf_iff env system hl target hun.nonempty hun.noBlank e he hpicks
        hrisky).mpr hplain) hsafety

end Guard

/-- An update service of some vendor, which runs under the system account. -/
def vendorService : SystemFacts where
  windowsDirectory := wide "C:\\Windows"
  process := fun _ =>
    { opened := true
      imagePath := wide "C:\\Program Files\\Vendor\\updater.exe"
      account := wide "SYSTEM"
      session := some 0 }

/-- A request to suspend a process, without a confirmation. -/
def suspendRequest (target : String) : Request where
  contentType := ascii "application/json"
  body := .object [(ascii "command", .string (ascii "suspend")),
    (ascii "target", .string (ascii target))]

theorem lawful_oneProcess (name : String) (pid : DWORD)
    (h : (wide name).all (32 ≤ ·) = true) : (oneProcess name pid).Lawful where
  distinct := List.nodup_singleton pid
  names := List.forall_mem_singleton.mpr fun u hu =>
    of_decide_eq_true (List.all_eq_true.mp h u hu)
  upcase := fun _ _ _ heq => heq
  widen := Transcode.cuts_map

theorem guarded_iff_pid :
    Guarded (oneProcess "updater.exe" 456) vendorService started default
      (suspendRequest "456") := by
  refine (guarded_iff (oneProcess "updater.exe" 456) vendorService started default
    (suspendRequest "456") (lawful_oneProcess _ _ rfl)).1.mpr ?_
  intro verb target hun _ _ _ _ _
  have htarget : target = ascii "456" := (Except.ok.inj hun.target_eq).symm
  rw [htarget]
  refine ⟨⟨by decide +kernel, by decide⟩, ?_⟩
  rintro ⟨hdigits, _⟩
  exact absurd hdigits (by decide)

/-- The process id with a leading zero. -/
theorem not_guarded_leading_zero :
    ¬ Guarded (oneProcess "updater.exe" 456) vendorService started default
      (suspendRequest "0456") := by
  refine not_guarded (oneProcess "updater.exe" 456) vendorService started default
    (suspendRequest "0456") (lawful_oneProcess _ _ rfl) .suspend (ascii "0456") ?_
    ⟨wide "updater.exe", 456⟩ List.mem_cons_self (by decide) (by decide) (by decide) (by decide)
  exact ⟨rfl, rfl, rfl, rfl, by decide, by decide, by decide +kernel, rfl⟩

end Service

end ThreadHaul
