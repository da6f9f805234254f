import ThreadHaul.Lib.Decimal
import ThreadHaul.Service.Daemon

/-!
# Commands

`HandleCommand`: one line of text from the control pipe, from the controller or
from the dashboard, and the reply to it.

The line is split at white space into a verb and a target, and the target is
matched against the process table, as a process id if it has digits only and
as a name otherwise. Two things in here can throw, and nothing catches them.
`std::stoul` throws on a number that is out of range, and it is called for each
process of the table. `dump` throws on a string that is not UTF-8, and the
replies that refuse a command quote what was sent. `Escapes` puts the two
together, and `handleCommand_replies_iff` says that there is nothing else.

## Main definitions

* `nextToken`: Reading a word from a stream.
* `act`: What is done to one process.
* `handleCommand`: `HandleCommand`.
* `Escapes`: The lines at which an exception escapes.

## Theorems

* `selectTargets_eq`, `selectTargets_tooLarge`: When the search for the targets
  throws, and what it finds.
* `replies_report`: What was done is always reported.
* `handleCommand_replies_iff`: When a command gets its reply.
-/

namespace ThreadHaul

namespace Service

open Actuator Telemetry Json

section Parsing

/-- `isspace`. -/
def isSpace (c : UInt8) : Bool := c == 32 || (9 ≤ c && c ≤ 13)

/-- `in >> word`: the word, and the rest of the stream. -/
def nextToken (s : Bytes) : Bytes × Bytes :=
  let s := s.dropWhile isSpace
  (s.takeWhile fun c => !isSpace c, s.dropWhile fun c => !isSpace c)

/-- `tolower`. -/
def toLower (c : UInt8) : UInt8 := if 65 ≤ c ∧ c ≤ 90 then c + 32 else c

/-- The verb of a line, in lower case. -/
def verbOf (line : Bytes) : Bytes := (nextToken line).1.map toLower

/-- The second word of a command. -/
def targetOf (line : Bytes) : Bytes := (nextToken (nextToken line).2).1

end Parsing

/-- What leaves `HandleCommand` other than a reply. -/
inductive Escape
  /-- `std::out_of_range`. -/
  | outOfRange
  | json (e : JsonError)

/-- `std::stoul` on a text of digits. An `unsigned long` has 32 bits. -/
def stoul (s : Bytes) : Except Escape Nat :=
  if Decimal.value s < 2 ^ 32 then .ok (Decimal.value s) else .error .outOfRange

/-- `dump()` of a reply. -/
def finish (j : Json) : Except Escape Json := j.dump.mapError Escape.json

/-- The verbs that act on processes. -/
inductive Manage
  | throttle
  | suspend
  | resume
  | release
  deriving DecidableEq

/-- The verb as it is written. -/
def Manage.name : Manage → Bytes
  | .throttle => ascii "throttle"
  | .suspend => ascii "suspend"
  | .resume => ascii "resume"
  | .release => ascii "release"

/-- The verb of a text. -/
def manageOf (verb : Bytes) : Option Manage :=
  [Manage.throttle, .suspend, .resume, .release].find? fun m => m.name == verb

/-- What is reported of one target. -/
inductive Answer
  | critical
  | onProtectionList
  | throttled
  | suspended
  | notManaged
  | resumed
  | automatic
  | unmanaged

/-- The `ok` of a result. -/
def Answer.ok : Answer → Bool
  | .critical | .onProtectionList | .notManaged => false
  | .throttled | .suspended | .resumed | .automatic | .unmanaged => true

/-- The text of a result. -/
def Answer.text : Answer → Bytes
  | .critical => ascii "refused: configured as a critical process"
  | .onProtectionList => ascii "refused: process is on the protection list"
  | .throttled => ascii "throttled; held until 'release'"
  | .suspended => ascii "suspended; held until 'release'"
  | .notManaged => ascii "not managed by the daemon"
  | .resumed => ascii "resumed at normal priority; held until 'release'"
  | .automatic => ascii "returned to automatic control"
  | .unmanaged => ascii "released (not a configured batch process, no longer managed)"

/-- The daemon and the system, the calls of `ForceState`, and the callbacks. -/
structure Effect where
  daemon : Daemon
  world : World
  forced : List (ProcessEntry × ProcessState) := []
  fired : List (Transition Rat) := []

section Act

variable (env : Env) (e : ProcessEntry) (d : Daemon) (w : World)

/-- `m->ForceState(state, pressure_, true)`. -/
def forceHeld (state : ProcessState) : Effect :=
  let r := d.actuator.forceState (env.os e.pid) e.pid state d.pressure true w
  { daemon := { d with actuator := r.manager }
    world := r.world
    forced := [(e, state)]
    fired := r.fired }

/-- Throttling or suspending a process, which is managed from now on. -/
def forceManaged (state : ProcessState) (done : Answer) : Effect × Answer :=
  match d.actuator.find e.pid with
  | some _ => (forceHeld env e d w state, done)
  | none =>
      let (actuator, added) :=
        d.actuator.addBatchProcess env.host (env.opened e.pid) e.name e.pid
      if !added then ({ daemon := { d with actuator := actuator }, world := w }, .onProtectionList)
      else (forceHeld env e { d with actuator := actuator, adhoc := d.adhoc.insert e.pid } w state,
        done)

/-- `m->ReleaseManualHold()`, and what was managed on request is dropped. -/
def releaseHold : Effect × Answer :=
  let r := d.actuator.releaseManualHold (env.os e.pid) e.pid w
  let released := { d with actuator := r.manager }
  let normal := (r.manager.find e.pid).any fun m => m.state == .normal
  if e.pid ∈ d.adhoc && normal then
    ({ daemon :=
        { released with
          actuator := r.manager.removeBatchProcess e.pid
          adhoc := d.adhoc.filter fun pid => pid != e.pid }
       world := r.world
       fired := r.fired }, .unmanaged)
  else ({ daemon := released, world := r.world, fired := r.fired }, .automatic)

/-- What a command does to one process. -/
def act (verb : Manage) : Effect × Answer :=
  if contains env.host d.criticalProcesses e.name then ({ daemon := d, world := w }, .critical)
  else
    match verb with
    | .throttle => forceManaged env e d w .throttled .throttled
    | .suspend => forceManaged env e d w .suspended .suspended
    | .resume =>
        match d.actuator.find e.pid with
        | none => ({ daemon := d, world := w }, .notManaged)
        | some _ => (forceHeld env e d w .normal, .resumed)
    | .release =>
        match d.actuator.find e.pid with
        | none => ({ daemon := d, world := w }, .notManaged)
        | some _ => releaseHold env e d w

end Act

/-- The entry for a target in a reply. -/
def resultJson (e : ProcessEntry) (ok : Bool) (result : Bytes) : Json :=
  .object [(ascii "pid", .integer e.pid.toNat), (ascii "name", .string (narrow e.name)),
    (ascii "ok", .boolean ok), (ascii "result", .string result)]

/-- The loop over the targets, and the results in order. -/
def actAll (env : Env) (verb : Manage) :
    List ProcessEntry → Daemon → World → Effect × List (ProcessEntry × Answer)
  | [], d, w => ({ daemon := d, world := w }, [])
  | e :: targets, d, w =>
      let (effect, answer) := act env e d w verb
      let (rest, answers) := actAll env verb targets effect.daemon effect.world
      ({ rest with
          forced := effect.forced ++ rest.forced
          fired := effect.fired ++ rest.fired }, (e, answer) :: answers)

/-- The targets of `exempt`: a number is compared as text. -/
def exemptTargets (env : Env) (target : Bytes) : List ProcessEntry :=
  env.snapshot.filter fun e =>
    if Decimal.isDigits target then Decimal.decimal e.pid.toNat == target
    else sameName env.host e.name (env.widen target)

/-- The test of the other commands: a number is compared as a number. -/
def isTarget (env : Env) (target : Bytes) (e : ProcessEntry) : Except Escape Bool :=
  if Decimal.isDigits target then do
    let n ← stoul target
    return e.pid.toNat == n
  else return sameName env.host e.name (env.widen target)

/-- The targets of the other commands. The test is made for each process. -/
def selectTargets (env : Env) (target : Bytes) :
    List ProcessEntry → Except Escape (List ProcessEntry)
  | [] => .ok []
  | e :: snapshot => do
      let found ← isTarget env target e
      let rest ← selectTargets env target snapshot
      return if found then e :: rest else rest

/-- What a command comes to. -/
structure CommandResult where
  reply : Json
  effect : Effect
  /-- `SetEvent(remoteStopEvent_)`. -/
  stopped : Bool := false
  /-- The calls of `autoProtect_->Exempt`. -/
  exempted : List ProcessEntry := []

/-- The message where no process matches. -/
def noMatch (target : Bytes) : Bytes :=
  ascii "no running process matches \"" ++ target ++ ascii "\""

section Handle

variable (env : Env) (d : Daemon) (w : World)

/-- A reply to a command that changes nothing. -/
def answerOnly (ok : Bool) (message : Bytes) : Except Escape CommandResult := do
  let j ← finish (reply ok message)
  return { reply := j, effect := { daemon := d, world := w } }

/-- `exempt`. -/
def handleExempt (target : Bytes) : Except Escape CommandResult :=
  if target.isEmpty then answerOnly d w false (ascii "exempt needs a PID or process name")
  else
    let targets := exemptTargets env target
    if targets.isEmpty then answerOnly d w false (noMatch target)
    else do
      let j ← finish (replyWithResults true (ascii "done") (targets.map fun e => resultJson e true
        (ascii "restored and excluded from auto-protect until it exits")))
      return { reply := j, effect := { daemon := d, world := w }, exempted := targets }

/-- `throttle`, `suspend`, `resume` and `release`. -/
def handleManage (verb : Manage) (target : Bytes) : Except Escape CommandResult :=
  if target.isEmpty then
    answerOnly d w false (verb.name ++ ascii " needs a PID or process name")
  else do
    let targets ← selectTargets env target env.snapshot
    if targets.isEmpty then answerOnly d w false (noMatch target)
    else
      let (effect, answers) := actAll env verb targets d w
      let allOk := answers.all fun a => a.2.ok
      let j ← finish (replyWithResults allOk
        (if allOk then ascii "done" else ascii "one or more targets failed")
        (answers.map fun a => resultJson a.1 a.2.ok a.2.text))
      return { reply := j, effect := effect }

/-- `HandleCommand`. -/
def handleCommand (line : Bytes) : Except Escape CommandResult :=
  let verb := verbOf line
  let target := targetOf line
  if verb = ascii "status" then do
    let j ← finish (statusJson d)
    return { reply := j, effect := { daemon := d, world := w } }
  else if verb = ascii "stop" then
    if !d.remoteStopEvent then
      answerOnly d w false (ascii "running as a service: use 'sc stop ThreadHaulDaemon'")
    else do
      let j ← finish (reply true (ascii "stopping; managed processes will be restored"))
      return { reply := j, effect := { daemon := d, world := w }, stopped := true }
  else if verb = ascii "exempt" then handleExempt env d w target
  else
    match manageOf verb with
    | some m => handleManage env d w m target
    | none => answerOnly d w false (ascii "unknown command \"" ++ verb ++
        ascii "\"; use throttle|suspend|resume|release <pid|name> or status")

end Handle

section Replies

variable (env : Env) (d : Daemon) (w : World)

/-- The value is an object with a member `ok` that is true or false. -/
def HasOk (j : Json) : Prop :=
  ∃ members ok, j = .object members ∧ find members (ascii "ok") = some (.boolean ok)

/-- No exception escapes, and the reply has an `ok`. -/
def Replies (x : Except Escape CommandResult) : Prop := ∃ r, x = .ok r ∧ HasOk r.reply

/-- A number that `std::stoul` does not accept. -/
def TooLarge (target : Bytes) : Prop :=
  Decimal.isDigits target = true ∧ 2 ^ 32 ≤ Decimal.value target

/-- The target is the name of no running process. -/
def Unknown (target : Bytes) : Prop :=
  ∀ e ∈ env.snapshot, sameName env.host e.name (env.widen target) = false

/-- An exception escapes: at a verb that is no text, at a number that is too
    large while there are processes, or at a target that is no text and names no
    process. -/
def Escapes (line : Bytes) : Prop :=
  ¬ Utf8.Valid (verbOf line) ∨
  (manageOf (verbOf line) ≠ none ∧ TooLarge (targetOf line) ∧ env.snapshot ≠ []) ∨
  ((verbOf line = ascii "exempt" ∨ manageOf (verbOf line) ≠ none) ∧
    ¬ Utf8.Valid (targetOf line) ∧ Unknown env (targetOf line))

theorem finish_of_allText (j : Json) (h : AllText j) : finish j = .ok j := by
  rw [finish, dump_of_allText j h]
  rfl

theorem finish_of_not_allText (j : Json) (h : ¬ AllText j) :
    finish j = .error (.json .invalidUtf8) := by
  have hdump : j.dump = .error .invalidUtf8 := if_neg h
  rw [finish, hdump]
  rfl

/-- A command that only answers replies exactly if its answer is text. -/
theorem answerOnly_replies_iff (ok : Bool) (message : Bytes) :
    Replies (answerOnly d w ok message) ↔ Utf8.Valid message := by
  by_cases h : Utf8.Valid message
  · refine iff_of_true ?_ h
    rw [answerOnly, finish_of_allText _ ((allText_reply ok message).mpr h)]
    exact ⟨_, rfl, _, ok, rfl, rfl⟩
  · refine iff_of_false ?_ h
    rw [answerOnly, finish_of_not_allText _ (fun hj => h ((allText_reply ok message).mp hj))]
    rintro ⟨r, hr, _⟩
    cases hr

theorem answerOnly_replies (ok : Bool) (message : Bytes) (h : Utf8.Valid message) :
    Replies (answerOnly d w ok message) := (answerOnly_replies_iff d w ok message).mpr h

theorem valid_noMatch (target : Bytes) : Utf8.Valid (noMatch target) ↔ Utf8.Valid target :=
  Utf8.valid_between _ target _ rfl rfl

theorem valid_of_isDigits (target : Bytes) (h : Decimal.isDigits target = true) :
    Utf8.Valid target := by
  refine Utf8.valid_of_ascii target ?_
  intro c hc
  have hbounds := Decimal.toNat_of_isDigit c (List.all_eq_true.mp h c hc)
  have h128 : (128 : UInt8).toNat = 128 := rfl
  rw [UInt8.lt_iff_toNat_lt]
  omega

/-- The result for one target is text. -/
theorem allText_resultJson (e : ProcessEntry) (ok : Bool) (result : Bytes)
    (h : Utf8.Valid result) : AllText (resultJson e ok result) := by
  simp only [resultJson, allText_object, List.forall_mem_cons, List.not_mem_nil, false_implies,
    implies_true, and_true, allText_integer, allText_boolean, allText_string, valid_narrow, h]
  decide +kernel

theorem valid_answer (a : Answer) : Utf8.Valid a.text := by
  cases a <;> exact valid_ascii _ rfl

/-- A target that is no text is a name, and no number. -/
theorem filter_eq_nil_iff_unknown (target : Bytes) (number : ProcessEntry → Bool)
    (h : ¬ Utf8.Valid target) :
    (env.snapshot.filter fun e =>
      if Decimal.isDigits target then number e
      else sameName env.host e.name (env.widen target)) = [] ↔ Unknown env target := by
  have hdigits : ¬ Decimal.isDigits target = true := fun hd => h (valid_of_isDigits target hd)
  simp only [if_neg hdigits, List.filter_eq_nil_iff, Bool.not_eq_true]
  rfl

/-- A command with targets, `x` being its reply if there are any. Only a target
    that is no text and names nothing goes without. -/
theorem replies_iff_of_targets (target : Bytes) (number : ProcessEntry → Bool)
    (targets : List ProcessEntry) (x : Except Escape CommandResult)
    (htargets : targets = env.snapshot.filter fun e =>
      if Decimal.isDigits target then number e
      else sameName env.host e.name (env.widen target))
    (hx : Replies x) :
    Replies (if targets.isEmpty then answerOnly d w false (noMatch target) else x) ↔
      ¬ (¬ Utf8.Valid target ∧ Unknown env target) := by
  by_cases hnil : targets = []
  · -- The reply quotes the target, which must be text for that.
    rw [hnil, List.isEmpty_nil, if_pos rfl, answerOnly_replies_iff, valid_noMatch]
    constructor
    · intro hvalid h
      exact h.1 hvalid
    · intro h
      by_contra hvalid
      refine h ⟨hvalid, (filter_eq_nil_iff_unknown env target number hvalid).mp ?_⟩
      rw [← htargets, hnil]
  · -- With a target the reply quotes the names of the snapshot, which are text.
    have hempty : ¬ targets.isEmpty = true := fun h => hnil (List.isEmpty_iff.mp h)
    rw [if_neg hempty]
    refine iff_of_true hx ?_
    rintro ⟨hvalid, hunknown⟩
    rw [← filter_eq_nil_iff_unknown env target number hvalid, ← htargets] at hunknown
    exact hnil hunknown

/-- `exempt` replies unless it has to quote a target that is no text. -/
theorem handleExempt_replies_iff (target : Bytes) :
    Replies (handleExempt env d w target) ↔
      ¬ (¬ Utf8.Valid target ∧ Unknown env target) := by
  unfold handleExempt
  by_cases hempty : target = []
  · rw [hempty, List.isEmpty_nil, if_pos rfl]
    exact iff_of_true (answerOnly_replies d w _ _ (valid_ascii _ rfl))
      fun h => h.1 Utf8.valid_nil
  · rw [if_neg (fun h => hempty (List.isEmpty_iff.mp h))]
    refine replies_iff_of_targets env d w target
      (fun e => Decimal.decimal e.pid.toNat == target) (exemptTargets env target) _ rfl ?_
    -- The names come from `toUtf8`, so the answer can be written out.
    have htext : AllText (replyWithResults true (ascii "done") ((exemptTargets env target).map
        fun e => resultJson e true
          (ascii "restored and excluded from auto-protect until it exits"))) := by
      rw [allText_replyWithResults, List.forall_mem_map]
      exact ⟨valid_ascii _ rfl,
        fun e _ => allText_resultJson e true _ (valid_ascii _ rfl)⟩
    rw [finish_of_allText _ htext]
    exact ⟨_, rfl, _, true, rfl, rfl⟩

/-- If the test throws for no process, the search is a filter. -/
theorem selectTargets_of_isTarget (target : Bytes) (found : ProcessEntry → Bool)
    (hfound : ∀ e, isTarget env target e = .ok (found e)) (snapshot : List ProcessEntry) :
    selectTargets env target snapshot = .ok (snapshot.filter found) := by
  induction snapshot with
  | nil => rfl
  | cons e snapshot ih =>
      rw [selectTargets, hfound, ih, List.filter_cons]
      rfl

/-- The search throws exactly at a number that is too large, if there is a
    process to compare it with. -/
theorem selectTargets_eq (target : Bytes) (snapshot : List ProcessEntry)
    (h : ¬ (TooLarge target ∧ snapshot ≠ [])) :
    selectTargets env target snapshot = .ok (snapshot.filter fun e =>
      if Decimal.isDigits target then e.pid.toNat == Decimal.value target
      else sameName env.host e.name (env.widen target)) := by
  by_cases hnil : snapshot = []
  · rw [hnil]
    rfl
  · have hsmall : ¬ TooLarge target := fun ht => h ⟨ht, hnil⟩
    refine selectTargets_of_isTarget env target _ ?_ snapshot
    intro e
    unfold isTarget
    -- A number that fits is compared as one; any other target is a name.
    by_cases hdigits : Decimal.isDigits target = true
    · have hlt : Decimal.value target < 2 ^ 32 := by
        by_contra hge
        exact hsmall ⟨hdigits, by omega⟩
      rw [if_pos hdigits, if_pos hdigits, stoul, if_pos hlt]
      rfl
    · rw [if_neg hdigits, if_neg hdigits]
      rfl

theorem selectTargets_tooLarge (target : Bytes) (snapshot : List ProcessEntry)
    (h : TooLarge target) (hne : snapshot ≠ []) :
    selectTargets env target snapshot = .error .outOfRange := by
  cases snapshot with
  | nil => exact absurd rfl hne
  | cons e snapshot =>
      have hge : ¬ Decimal.value target < 2 ^ 32 := by
        have hlarge := h.2
        omega
      -- The first process is enough for the conversion to throw.
      have htest : isTarget env target e = .error .outOfRange := by
        rw [isTarget, if_pos h.1, stoul, if_neg hge]
        rfl
      rw [selectTargets, htest]
      rfl

/-- The report on the targets is text, whatever came of them. -/
theorem replies_report (effect : Effect) (answers : List (ProcessEntry × Answer)) :
    Replies (do
      let allOk := answers.all fun a => a.2.ok
      let j ← finish (replyWithResults allOk
        (if allOk then ascii "done" else ascii "one or more targets failed")
        (answers.map fun a => resultJson a.1 a.2.ok a.2.text))
      return { reply := j, effect := effect }) := by
  -- All texts of the report are the program's own, or names of processes.
  have htext : AllText (replyWithResults (answers.all fun a => a.2.ok)
      (if (answers.all fun a => a.2.ok) then ascii "done" else ascii "one or more targets failed")
      (answers.map fun a => resultJson a.1 a.2.ok a.2.text)) := by
    rw [allText_replyWithResults, List.forall_mem_map]
    refine ⟨?_, fun a _ => allText_resultJson a.1 a.2.ok a.2.text (valid_answer a.2)⟩
    split
    · exact valid_ascii _ rfl
    · exact valid_ascii _ rfl
  dsimp only
  rw [finish_of_allText _ htext]
  exact ⟨_, rfl, _, _, rfl, rfl⟩

/-- The other commands throw at a number that is too large, too. -/
theorem handleManage_replies_iff (verb : Manage) (target : Bytes) :
    Replies (handleManage env d w verb target) ↔
      ¬ (TooLarge target ∧ env.snapshot ≠ []) ∧ ¬ (¬ Utf8.Valid target ∧ Unknown env target) := by
  unfold handleManage
  by_cases hempty : target = []
  · rw [hempty, List.isEmpty_nil, if_pos rfl]
    refine iff_of_true (answerOnly_replies d w _ _ ?_) ⟨?_, fun h => h.1 Utf8.valid_nil⟩
    · refine Utf8.valid_append _ _ ?_ (valid_ascii _ rfl)
      cases verb <;> exact valid_ascii _ rfl
    · rintro ⟨⟨_, hlarge⟩, _⟩
      exact absurd hlarge (by decide)
  · rw [if_neg (fun h => hempty (List.isEmpty_iff.mp h))]
    -- The number is converted for the first process, and throws if it is too large.
    by_cases hlarge : TooLarge target ∧ env.snapshot ≠ []
    · rw [selectTargets_tooLarge env target env.snapshot hlarge.1 hlarge.2]
      refine iff_of_false ?_ fun h => h.1 hlarge
      rintro ⟨r, hr, _⟩
      cases hr
    · rw [selectTargets_eq env target env.snapshot hlarge, and_iff_right hlarge]
      refine replies_iff_of_targets env d w target
        (fun e => e.pid.toNat == Decimal.value target) _ _ rfl ?_
      exact replies_report _ _

theorem Manage.valid_name (m : Manage) : Utf8.Valid m.name := by
  cases m <;> exact valid_ascii _ rfl

theorem name_of_manageOf (verb : Bytes) (m : Manage) (h : manageOf verb = some m) :
    m.name = verb := by
  have hfound := List.find?_some h
  exact eq_of_beq hfound

/-- At a verb that takes no target, only the verb matters. -/
theorem escapes_iff_of_no_target (line : Bytes) (hexempt : verbOf line ≠ ascii "exempt")
    (hmanage : manageOf (verbOf line) = none) :
    Escapes env line ↔ ¬ Utf8.Valid (verbOf line) := by
  unfold Escapes
  constructor
  · intro h
    rcases h with h | ⟨h, _⟩ | ⟨h | h, _⟩
    · exact h
    · exact absurd hmanage h
    · exact absurd h hexempt
    · exact absurd hmanage h
  · exact Or.inl

/-- A command gets a reply, which says whether it succeeded, unless it is one
    at which an exception escapes. -/
theorem handleCommand_replies_iff (line : Bytes) :
    Replies (handleCommand env d w line) ↔ ¬ Escapes env line := by
  unfold handleCommand
  dsimp only
  -- Only a verb with targets can quote one.
  by_cases hstatus : verbOf line = ascii "status"
  · rw [if_pos hstatus, escapes_iff_of_no_target env line, not_not]
    · rw [hstatus, finish_of_allText _ (allText_statusJson d)]
      exact iff_of_true ⟨_, rfl, _, _, rfl, rfl⟩ (valid_ascii _ rfl)
    · rw [hstatus]
      decide
    · rw [hstatus]
      decide
  rw [if_neg hstatus]
  by_cases hstop : verbOf line = ascii "stop"
  · rw [if_pos hstop, escapes_iff_of_no_target env line, not_not, hstop]
    · refine iff_of_true ?_ (valid_ascii _ rfl)
      split
      · exact answerOnly_replies d w _ _ (valid_ascii _ rfl)
      · rw [finish_of_allText _ ((allText_reply _ _).mpr (valid_ascii _ rfl))]
        exact ⟨_, rfl, _, _, rfl, rfl⟩
    · rw [hstop]
      decide
    · rw [hstop]
      decide
  rw [if_neg hstop]
  by_cases hexempt : verbOf line = ascii "exempt"
  · rw [if_pos hexempt, handleExempt_replies_iff, not_iff_not, Escapes, hexempt]
    have hnone : manageOf (ascii "exempt") = none := by decide
    have hvalid : Utf8.Valid (ascii "exempt") := valid_ascii _ rfl
    simp only [hnone, hvalid, not_true_eq_false, ne_eq, false_and, or_false, true_and, false_or]
  rw [if_neg hexempt]
  cases hmanage : manageOf (verbOf line) with
  -- The reply to an unknown verb quotes nothing.
  | none =>
      rw [escapes_iff_of_no_target env line hexempt hmanage, not_not]
      rw [answerOnly_replies_iff]
      exact Utf8.valid_between _ _ _ rfl rfl
  | some m =>
      have hvalid : Utf8.Valid (verbOf line) := by
        rw [← name_of_manageOf (verbOf line) m hmanage]
        exact m.valid_name
      rw [handleManage_replies_iff, ← not_or, not_iff_not]
      simp only [Escapes, hmanage, hvalid, hexempt, not_true_eq_false, ne_eq, reduceCtorEq,
        not_false_eq_true, false_or, true_and]

end Replies

/-- A daemon that has just started. -/
def started : Daemon where
  criticalProcesses := []
  actuator := { config := default }
  adhoc := []
  pressure := 0
  pressureSignal := .cpu
  criticalPid := 0
  base := default
  effective := default
  coordinationConnected := false
  lastSamples := []
  remoteStopEvent := true

/-- A system on which one process runs. -/
def oneProcess (name : String) (pid : DWORD) : Env where
  host := ⟨1000, id⟩
  widen := List.map UInt8.toUInt16
  snapshot := [⟨wide name, pid⟩]
  opened := fun _ => true
  os := fun _ => .succeeding

/-- A number that needs 33 bits. -/
theorem not_replies_number_too_large :
    ¬ Replies (handleCommand (oneProcess "notepad.exe" 4821) started default
      (ascii "throttle 4294967296")) := by
  have hthrows : handleCommand (oneProcess "notepad.exe" 4821) started default
      (ascii "throttle 4294967296") = .error .outOfRange := rfl
  rintro ⟨r, hr, _⟩
  rw [hthrows] at hr
  cases hr

end Service

end ThreadHaul
