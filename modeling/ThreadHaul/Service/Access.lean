import ThreadHaul.Lib.Decimal
import ThreadHaul.Service.AccessKey
import ThreadHaul.Service.Dashboard

/-!
# Access to the Dashboard

`Handle` up to the operation it leads to, and who gets that far.

The server takes one connection at a time, so requests do not interleave with
each other. Links are handed out by the thread of the control pipe, which asks
the session guard for a key whenever it likes, and time passes. A sign-out calls
the guard twice, to check the key and to revoke it, and links and time come in
between as well. A `Site` is where all this has led to.

## Main definitions

* `HttpRequest`, `queryParam`: A request and what is read from it.
* `authorized`, `route`, `handle`: `Authorized`, the endpoints, and `Handle`.
* `Site`: The dashboard in the course of events.
* `AccessControlled`: Who gets to an operation, and who does not.

## Theorems

* `holds_site_step`: Whatever happens, the guard knows its history.
* `handle_reaches`, `handle_of_check_ok`: When a request gets to an operation.
* `access_controlled`: Access is controlled in the course of any events.
-/

namespace ThreadHaul

namespace Service

/-- `HttpRequest`. The names of the headers are in lower case. -/
structure HttpRequest where
  method : Bytes
  path : Bytes
  query : Bytes
  headers : List (Bytes × Bytes)
  body : Bytes

/-- `Header`: a header that is missing is empty. -/
def HttpRequest.header (req : HttpRequest) (name : Bytes) : Bytes :=
  (req.headers.lookup name).getD []

/-- `UrlDecode`. -/
def urlDecode : Bytes → Bytes
  | [] => []
  | 43 :: s => 32 :: urlDecode s
  | 37 :: hi :: lo :: s =>
      match hexValue hi, hexValue lo with
      | some h, some l => (h * 16 + l) :: urlDecode s
      | _, _ => 37 :: urlDecode (hi :: lo :: s)
  | c :: s => c :: urlDecode s

/-- `QueryParam`: the value of the first pair with the name. -/
def HttpRequest.queryParam (req : HttpRequest) (name : Bytes) : Bytes :=
  let pairs := req.query.splitOn 38
  match pairs.find? fun pair => urlDecode (pair.takeWhile (· != 61)) == name with
  | none => []
  | some pair => urlDecode ((pair.dropWhile (· != 61)).drop 1)

/-- `std::stoll`, which throws without digits and outside of the 64-bit
    range. What follows the digits is ignored. -/
def stoll (s : Bytes) : Option Int :=
  let s := s.dropWhile fun c => c == 32 || (9 ≤ c && c ≤ 13)
  let negative := s.head? == some 45
  let digits := (if negative || s.head? == some 43 then s.drop 1 else s).takeWhile Decimal.isDigit
  let n : Int := if negative then -(Decimal.value digits) else Decimal.value digits
  if digits.isEmpty then none
  else if -(2 ^ 63) ≤ n ∧ n < 2 ^ 63 then some n
  else none

/-- The operations of the daemon that an endpoint calls. What a command goes on
    with is `apiCommand`. -/
inductive DaemonOperation
  | status
  | processes
  | log (offset : Int)
  | command (req : Request)
  | role (body : Json)

/-- What a request leads to. -/
inductive Reply
  | refused (status : Nat) (message : Bytes)
  | file (path : Bytes)
  | operation (op : DaemonOperation)
  | logout

/-- The request gets to an operation of the daemon, or to the sign-out. -/
def Reply.reaches : Reply → Bool
  | .operation _ => true
  | .logout => true
  | _ => false

section Handle

variable (limits : Limits) (parse : Bytes → Json) (port : Nat)

/-- The two names of this host, with the port. -/
def hosts : List Bytes :=
  [ascii "127.0.0.1:" ++ Decimal.decimal port, ascii "localhost:" ++ Decimal.decimal port]

/-- The header names this host. -/
def HostAccepted (req : HttpRequest) : Prop := req.header (ascii "host") ∈ hosts port

/-- There is no origin, or it is this host. -/
def OriginAccepted (req : HttpRequest) : Prop :=
  req.header (ascii "origin") = [] ∨
    req.header (ascii "origin") ∈ (hosts port).map (ascii "http://" ++ ·)

/-- Whether the host is accepted can be decided. -/
instance (req : HttpRequest) : Decidable (HostAccepted port req) :=
  inferInstanceAs (Decidable (_ ∈ _))

/-- Whether the origin is accepted can be decided. -/
instance (req : HttpRequest) : Decidable (OriginAccepted port req) :=
  inferInstanceAs (Decidable (_ ∨ _))

/-- `Authorized`: the answer to a request from elsewhere. -/
def authorized (req : HttpRequest) : Option Reply :=
  if ¬ HostAccepted port req then
    some (.refused 403 (ascii "requests must use http://127.0.0.1:" ++ Decimal.decimal port))
  else if ¬ OriginAccepted port req then
    some (.refused 403 (ascii "cross-origin requests are not allowed"))
  else none

/-- Requests for anything but the API. -/
def serveFile (req : HttpRequest) : Reply :=
  if req.method ≠ ascii "GET" then .refused 405 (ascii "method not allowed")
  else .file (if req.path = ascii "/" then ascii "/index.html" else req.path)

/-- The offset of `/api/log`. -/
def logOffset (req : HttpRequest) : Option Int :=
  let off := req.queryParam (ascii "offset")
  if off.isEmpty then some (-1) else stoll off

/-- The endpoints, for a request whose key was accepted. -/
def route (req : HttpRequest) : Reply :=
  let get := req.method == ascii "GET"
  let post := req.method == ascii "POST"
  if post && req.path == ascii "/api/logout" then .logout
  else if get && req.path == ascii "/api/status" then .operation .status
  else if get && req.path == ascii "/api/processes" then .operation .processes
  else if get && req.path == ascii "/api/log" then
    match logOffset req with
    | none => .refused 400 (ascii "bad offset")
    | some offset => .operation (.log offset)
  else if post && (req.path == ascii "/api/command" || req.path == ascii "/api/role") then
    let contentType := req.header (ascii "content-type")
    if !(ascii "application/json").isPrefixOf contentType then
      .refused 400 (ascii "Content-Type must be application/json")
    else
      let body := parse req.body
      if !body.isObject then .refused 400 (ascii "body must be a JSON object")
      else if req.path == ascii "/api/command" then .operation (.command ⟨contentType, body⟩)
      else .operation (.role body)
  else .refused (if get || post then 404 else 405) (ascii "unknown endpoint")

/-- The key a request presents. -/
def HttpRequest.token (req : HttpRequest) : Bytes := req.header (ascii "x-threadhaul-token")

/-- The path is that of an operation. -/
def HttpRequest.isApi (req : HttpRequest) : Bool := (ascii "/api/").isPrefixOf req.path

/-- `Handle`, without the second half of a sign-out. -/
def handle (s : Session) (req : HttpRequest) : Session × Reply :=
  match authorized port req with
  | some denied => (s, denied)
  | none =>
      if !req.isApi then (s, serveFile req)
      else (s.check limits req.token,
        match (check limits s.guard s.now req.token).2 with
        | .ok => route parse req
        | .locked => .refused 429 (ascii "too many invalid tokens; try again in a minute")
        | .expired => .refused 401 (ascii ("dashboard session expired; " ++
            "run 'ThreadHaulDaemon.exe dashboard' for a new link"))
        | .invalid => .refused 401 (ascii ("missing or invalid dashboard token; " ++
            "open the dashboard with 'ThreadHaulDaemon.exe dashboard'")))

end Handle

/-- The dashboard: its session, and whether the server is between the two calls
    of a sign-out. -/
structure Site where
  session : Session := {}
  signingOut : Bool := false

/-- A request, the end of a sign-out, a link for the control pipe, or some time
    passes. -/
inductive SiteEvent
  | request (req : HttpRequest)
  | signOut
  | link
  | tick (d : Nat)

section Course

variable (limits : Limits) (newKey : Nat → Bytes) (parse : Bytes → Json) (port : Nat)

/-- The next request is taken when the one before it has been answered. -/
def Site.step (site : Site) : SiteEvent → Site
  | .request req =>
      if site.signingOut then site
      else
        let r := handle limits parse port site.session req
        { session := r.1, signingOut := match r.2 with | .logout => true | _ => false }
  | .signOut =>
      if site.signingOut then { session := site.session.revoke, signingOut := false } else site
  | .link => { site with session := site.session.step limits newKey .link }
  | .tick d => { site with session := site.session.step limits newKey (.tick d) }

/-- The dashboard after a course of events. -/
def Site.after (events : List SiteEvent) : Site :=
  Runs.run (Site.step limits newKey parse port) {} events

/-- A request gets to an operation only with an accepted host and origin and the
    acceptable key, such a request to the API gets to its endpoint, and a dead
    key is refused. -/
structure AccessControlled (site : Site) : Prop where
  reaches : ∀ req, (handle limits parse port site.session req).2.reaches = true →
    HostAccepted port req ∧ OriginAccepted port req ∧
      ∃ issuedAt, Acceptable limits site.session.history site.session.now req.token issuedAt
  authorised : ∀ req, req.isApi = true → HostAccepted port req → OriginAccepted port req →
    (∃ issuedAt, Acceptable limits site.session.history site.session.now req.token issuedAt) →
      (handle limits parse port site.session req).2 = route parse req
  dead : ∀ key, Dead site.session.history key →
    (check limits site.session.guard site.session.now key).2 ≠ .ok

/-- The guard is asked about a request once or not at all. -/
theorem handle_session (s : Session) (req : HttpRequest) :
    (handle limits parse port s req).1 = s ∨
      (handle limits parse port s req).1 = s.step limits newKey (.check req.token) := by
  unfold handle
  split
  · exact Or.inl rfl
  · split_ifs with hstatic
    · exact Or.inl rfl
    · exact Or.inr rfl

/-- Whatever happens, the guard knows its history. -/
theorem holds_site_step (hne : ∀ n, newKey n ≠ []) (site : Site)
    (h : Holds limits newKey site.session) (e : SiteEvent) :
    Holds limits newKey (site.step limits newKey parse port e).session := by
  cases e with
  | request req =>
      unfold Site.step
      dsimp only
      -- Between the halves of a sign-out `Handle` waits for its lock, and nothing happens.
      split_ifs with hbusy
      · exact h
      · rcases handle_session limits newKey parse port site.session req with heq | heq
        · rw [heq]
          exact h
        · rw [heq]
          exact holds_step limits newKey site.session hne h (.check req.token)
  | signOut =>
      unfold Site.step
      dsimp only
      split_ifs with hbusy
      · exact holds_step limits newKey site.session hne h .revoke
      · exact h
  | link => exact holds_step limits newKey site.session hne h .link
  | tick d => exact holds_step limits newKey site.session hne h (.tick d)

theorem holds_after (hne : ∀ n, newKey n ≠ []) (events : List SiteEvent) :
    Holds limits newKey (Site.after limits newKey parse port events).session :=
  Runs.run_invariant _ (fun site => Holds limits newKey site.session)
    (fun site e h => holds_site_step limits newKey parse port hne site h e) events {}
    (holds_initial limits newKey)

theorem authorized_eq_none_iff (req : HttpRequest) :
    authorized port req = none ↔ HostAccepted port req ∧ OriginAccepted port req := by
  unfold authorized
  -- The host is checked before the origin.
  by_cases hhost : HostAccepted port req
  · rw [if_neg (not_not.mpr hhost)]
    by_cases horigin : OriginAccepted port req
    · rw [if_neg (not_not.mpr horigin)]
      exact ⟨fun _ => ⟨hhost, horigin⟩, fun _ => rfl⟩
    · rw [if_pos horigin]
      constructor
      · intro h
        cases h
      · rintro ⟨_, h⟩
        exact absurd h horigin
  · rw [if_pos hhost]
    constructor
    · intro h
      cases h
    · rintro ⟨h, _⟩
      exact absurd h hhost

/-- `Handle`, for a request to the API from this host. -/
theorem handle_api (s : Session) (req : HttpRequest) (hauthorized : authorized port req = none)
    (hapi : req.isApi = true) :
    (handle limits parse port s req).2 =
      match (check limits s.guard s.now req.token).2 with
      | .ok => route parse req
      | .locked => .refused 429 (ascii "too many invalid tokens; try again in a minute")
      | .expired => .refused 401 (ascii ("dashboard session expired; " ++
          "run 'ThreadHaulDaemon.exe dashboard' for a new link"))
      | .invalid => .refused 401 (ascii ("missing or invalid dashboard token; " ++
          "open the dashboard with 'ThreadHaulDaemon.exe dashboard'")) := by
  unfold handle
  -- The host and the origin pass, so what is left is the check of the key.
  rw [hauthorized]
  dsimp only
  rw [hapi]
  rfl

/-- A request from elsewhere gets nowhere. -/
theorem reaches_of_authorized_eq_some (req : HttpRequest) (denied : Reply)
    (h : authorized port req = some denied) : denied.reaches = false := by
  unfold authorized at h
  split_ifs at h
  · rw [← Option.some.inj h]
    rfl
  · rw [← Option.some.inj h]
    rfl

theorem reaches_serveFile (req : HttpRequest) : (serveFile req).reaches = false := by
  unfold serveFile
  split_ifs
  · rfl
  · rfl
  · rfl

/-- What gets to an operation comes from this host and has passed the check. -/
theorem handle_reaches (s : Session) (req : HttpRequest)
    (h : (handle limits parse port s req).2.reaches = true) :
    authorized port req = none ∧ (check limits s.guard s.now req.token).2 = .ok := by
  cases hauthorized : authorized port req with
  | some denied =>
      unfold handle at h
      rw [hauthorized] at h
      dsimp only at h
      rw [reaches_of_authorized_eq_some port req denied hauthorized] at h
      cases h
  | none =>
      refine ⟨rfl, ?_⟩
      cases hapi : req.isApi with
      | false =>
          unfold handle at h
          rw [hauthorized] at h
          dsimp only at h
          rw [hapi, Bool.not_false, if_pos rfl, reaches_serveFile] at h
          cases h
      | true =>
          rw [handle_api limits parse port s req hauthorized hapi] at h
          -- Any answer but `Ok` is a refusal.
          cases hcheck : (check limits s.guard s.now req.token).2 with
          | ok => rfl
          | locked =>
              rw [hcheck] at h
              cases h
          | expired =>
              rw [hcheck] at h
              cases h
          | invalid =>
              rw [hcheck] at h
              cases h

/-- A request to the API that passes the check gets to its endpoint. -/
theorem handle_of_check_ok (s : Session) (req : HttpRequest)
    (hauthorized : authorized port req = none) (hapi : req.isApi = true)
    (hcheck : (check limits s.guard s.now req.token).2 = .ok) :
    (handle limits parse port s req).2 = route parse req := by
  rw [handle_api limits parse port s req hauthorized hapi, hcheck]

/-- Access is controlled in the course of any events: requests, links, the two
    halves of a sign-out, and time. -/
theorem access_controlled (hinj : Function.Injective newKey) (hne : ∀ n, newKey n ≠ [])
    (events : List SiteEvent) :
    AccessControlled limits parse port (Site.after limits newKey parse port events) := by
  have h := holds_after limits newKey parse port hne events
  -- The history matters through the invariant alone.
  generalize Site.after limits newKey parse port events = site at h ⊢
  constructor
  · intro req hreaches
    obtain ⟨hauthorized, hcheck⟩ := handle_reaches limits parse port site.session req hreaches
    obtain ⟨hhost, horigin⟩ := (authorized_eq_none_iff port req).mp hauthorized
    exact ⟨hhost, horigin, (check_ok_iff limits newKey site.session h req.token).mp hcheck⟩
  · intro req hapi hhost horigin hgood
    exact handle_of_check_ok limits parse port site.session req
      ((authorized_eq_none_iff port req).mpr ⟨hhost, horigin⟩) hapi
      ((check_ok_iff limits newKey site.session h req.token).mpr hgood)
  · intro key hdead hcheck
    obtain ⟨issuedAt, hgood⟩ := (check_ok_iff limits newKey site.session h key).mp hcheck
    exact not_acceptable_of_dead limits newKey site.session hinj h key hdead _ issuedAt hgood

end Course

/-- Keys of different lengths. -/
def sampleKey (n : Nat) : Bytes := List.replicate (n + 1) 107

/-- A request for the status of the daemon with a key. -/
def statusRequest (key : Bytes) : HttpRequest where
  method := ascii "GET"
  path := ascii "/api/status"
  query := []
  headers := [(ascii "host", ascii "localhost:80"), (ascii "x-threadhaul-token", key)]
  body := []

/-- A link is asked for, and its key is used a second later. -/
def sampleSite : Site :=
  Site.after {} sampleKey (fun _ => .null) 80
    [.link, .tick 1000000000, .request (statusRequest (sampleKey 0))]

/-- The key of the link gets to the status, another key does not. -/
theorem access_controlled_sample :
    AccessControlled {} (fun _ => .null) 80 sampleSite ∧
      (handle {} (fun _ => .null) 80 sampleSite.session
        (statusRequest (sampleKey 0))).2.reaches = true ∧
      (handle {} (fun _ => .null) 80 sampleSite.session
        (statusRequest (sampleKey 1))).2.reaches = false := by
  refine ⟨access_controlled {} sampleKey _ 80 ?_ ?_ _, by decide, by decide⟩
  · intro m n h
    have hlen := congrArg List.length h
    rw [sampleKey, sampleKey, List.length_replicate, List.length_replicate] at hlen
    omega
  · intro n
    exact List.cons_ne_nil _ _

end Service

end ThreadHaul
