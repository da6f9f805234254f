import Mathlib.Data.List.Lex
import ThreadHaul.Channel.Frame
import ThreadHaul.Lib.OrderedMap
import ThreadHaul.Lib.Search
import ThreadHaul.Service.Access
import ThreadHaul.Service.ReadLog

/-!
# The HTTP Server

`HttpServer::Serve`: one request is read from a connection, handed to the handler,
and answered.

The bytes of a request arrive in pieces. The first loop appends them to a buffer
until the blank line is in it, which may bring part of the body along, or more than
that; the second one appends to the body until it is as long as declared. Both look
at all that has arrived, so what they come to is a matter of the stream alone:
`readHeader_eq`, `readBody_eq`. The limit on the header is one on the buffer, and the
buffer is not longer than the header as long as the blank line is not complete.

## Main definitions

* `readHeader`, `readBody`: The two loops.
* `parseRequest`, `contentLength`: What the header says.
* `serve`: What a connection leads to.
* `outcome`: The same, in terms of the stream.
* `Stated`: The request that a header says.

## Theorems

* `readHeader_eq`: The first loop ends with the blank line in the buffer.
* `readBody_eq`: The second one ends with the body.
* `serve_eq`: What is served is a matter of the stream.
* `parseRequest_eq_none_iff`, `stated_of_parseRequest`: What is read from a header.
* `serve_independent`: It does not depend on the pieces.
-/

namespace ThreadHaul

namespace Service

open Channel Decimal OrderedMap Search

/-- The most bytes of a header. -/
def kMaxHeader : Nat := 16 * 1024

/-- The most bytes of a body. -/
def kMaxBody : Nat := 256 * 1024

/-- `"\r\n\r\n"`. -/
def blankLine : Bytes := [13, 10, 13, 10]

/-- `HttpResponse`. -/
structure HttpResponse where
  status : Nat := 200
  contentType : Bytes := ascii "application/json; charset=utf-8"
  body : Bytes

/-- `std::strtoull`, to the base 10: the number is cut off at the largest one, and a
    number with a minus is negated modulo two to the 64. -/
def strtoull (s : Bytes) : Nat :=
  let s := s.dropWhile isSpace
  let negative : Bool := s.head? = some 45
  let digits := if s.head? = some 45 ∨ s.head? = some 43 then s.tail else s
  let n := value (digits.takeWhile isDigit)
  if 2 ^ 64 ≤ n then 2 ^ 64 - 1
  else if negative then (2 ^ 64 - n) % 2 ^ 64
  else n

/-- The text up to the first `"\r\n"`, and the texts between it and the later ones. -/
def crlfLines : Bytes → Bytes × List Bytes
  | [] => ([], [])
  | 13 :: 10 :: s => ([], (crlfLines s).1 :: (crlfLines s).2)
  | c :: s => (c :: (crlfLines s).1, (crlfLines s).2)

/-- One turn of the loop over the header. A line without a colon is skipped, and of two
    headers with one name the later counts. -/
def addHeader (headers : List (Bytes × Bytes)) (line : Bytes) : List (Bytes × Bytes) :=
  match findByte line 58 0 with
  | none => headers
  | some colon =>
      assign headers ((line.take colon).map toLower)
        ((line.drop (colon + 1)).dropWhile fun c => c == 32 || c == 9)

/-- The request in a header, still without a body. The request line has two blanks. -/
def parseRequest (head : Bytes) : Option HttpRequest :=
  let (requestLine, lines) := crlfLines head
  match findByte requestLine 32 0 with
  | none => none
  | some sp1 =>
      match findByte requestLine 32 (sp1 + 1) with
      | none => none
      | some sp2 =>
          let target := (requestLine.drop (sp1 + 1)).take (sp2 - sp1 - 1)
          let q := findByte target 63 0
          some
            { method := requestLine.take sp1
              path := match q with
                | none => target
                | some q => target.take q
              query := match q with
                | none => []
                | some q => target.drop (q + 1)
              headers := lines.foldl addHeader []
              body := [] }

/-- The declared length of the body. -/
def contentLength (req : HttpRequest) : Nat :=
  let cl := req.header (ascii "content-length")
  if cl.isEmpty then 0 else strtoull cl

/-- The loop that reads the header: the buffer, where the blank line begins in it, and
    what is left to arrive. -/
def readHeader (data : Bytes) : List Chunk → Option (Bytes × Nat × List Chunk)
  | [] => none
  | chunk :: recvs =>
      match find blankLine (data ++ chunk.bytes) with
      | some headerEnd => some (data ++ chunk.bytes, headerEnd, recvs)
      | none =>
          if kMaxHeader < (data ++ chunk.bytes).length then none
          else readHeader (data ++ chunk.bytes) recvs

/-- The loop that reads the rest of the body. -/
def readBody (length : Nat) (body : Bytes) : List Chunk → Option Bytes
  | [] => if body.length < length then none else some body
  | chunk :: recvs =>
      if body.length < length then readBody length (body ++ chunk.bytes) recvs else some body

/-- What a connection leads to. -/
inductive Served
  /-- The connection is closed without an answer. -/
  | dropped
  | refused (res : HttpResponse)
  | handled (req : HttpRequest)

/-- The answer to a request line that cannot be read. -/
def badRequest : HttpResponse where
  status := 400
  body := ascii "\x7b\"ok\":false,\"message\":\"bad request\"\x7d"

/-- The answer to a body over the limit. -/
def tooLarge : HttpResponse where
  status := 413
  body := ascii "\x7b\"ok\":false,\"message\":\"request too large\"\x7d"

/-- The answer where the handler throws. -/
def internalError : HttpResponse where
  status := 500
  body := ascii "\x7b\"ok\":false,\"message\":\"internal error\"\x7d"

/-- `Serve`, up to the answer. The connection is at its end, or has failed, after the
    pieces. -/
def serve (recvs : List Chunk) : Served :=
  match readHeader [] recvs with
  | none => .dropped
  | some (data, headerEnd, recvs) =>
      match parseRequest (data.take headerEnd) with
      | none => .refused badRequest
      | some req =>
          if kMaxBody < contentLength req then .refused tooLarge
          else
            match readBody (contentLength req) (data.drop (headerEnd + 4)) recvs with
            | none => .dropped
            | some body => .handled { req with body := body.take (contentLength req) }

/-- `StatusText`. -/
def statusText (status : Nat) : Bytes :=
  match status with
  | 200 => ascii "OK"
  | 204 => ascii "No Content"
  | 400 => ascii "Bad Request"
  | 401 => ascii "Unauthorized"
  | 403 => ascii "Forbidden"
  | 404 => ascii "Not Found"
  | 405 => ascii "Method Not Allowed"
  | 413 => ascii "Payload Too Large"
  | 500 => ascii "Internal Server Error"
  | _ => ascii "Error"

/-- The answer as it is sent. -/
def HttpResponse.text (res : HttpResponse) : Bytes :=
  ascii "HTTP/1.1 " ++ decimal res.status ++ ascii " " ++ statusText res.status ++
    ascii "\r\nContent-Type: " ++ res.contentType ++
    ascii "\r\nContent-Length: " ++ decimal res.body.length ++
    ascii "\r\nCache-Control: no-store" ++
    ascii "\r\nX-Content-Type-Options: nosniff" ++
    ascii "\r\nX-Frame-Options: DENY" ++
    ascii "\r\nReferrer-Policy: no-referrer" ++
    ascii "\r\nContent-Security-Policy: default-src 'self'; script-src 'self'; " ++
    ascii "style-src 'self'; img-src 'self' data:; connect-src 'self'; " ++
    ascii "frame-ancestors 'none'; base-uri 'none'; form-action 'none'" ++
    ascii "\r\nConnection: close\r\n\r\n" ++ res.body

/-- What is sent on a connection, with a handler that may throw. -/
def Served.sent (handler : HttpRequest → Option HttpResponse) : Served → Bytes
  | .dropped => []
  | .refused res => res.text
  | .handled req => ((handler req).getD internalError).text

/-- What a line says about a header: the value, if the name is this one. -/
def headerNamed (name line : Bytes) : Option Bytes :=
  if 58 ∈ line ∧ (line.takeWhile (· != 58)).map toLower = name then
    some (((line.dropWhile (· != 58)).drop 1).dropWhile fun c => c == 32 || c == 9)
  else none

/-- The header says this request. It is its lines, put together with their ends. The
    first line is the method, the target and the version, divided by blanks, and the
    target is the path and the query, divided by the first question mark. A header has
    the value of the last line with its name. -/
structure Stated (head : Bytes) (req : HttpRequest) : Prop where
  lines : head =
    (crlfLines head).1 ++ (crlfLines head).2.flatMap (fun line => 13 :: 10 :: line)
  requestLine : ∃ target version,
    (crlfLines head).1 = req.method ++ 32 :: (target ++ 32 :: version) ∧
      32 ∉ req.method ∧ 32 ∉ target ∧ 63 ∉ req.path ∧
      (target = req.path ∧ req.query = [] ∨ target = req.path ++ 63 :: req.query)
  headers : ∀ name, req.headers.lookup name =
    (crlfLines head).2.reverse.findSome? (headerNamed name)

/-- It says nothing about the body. -/
theorem Stated.of_body {head : Bytes} {req : HttpRequest} {body : Bytes}
    (h : Stated head { req with body := body }) : Stated head req :=
  ⟨h.lines, h.requestLine, h.headers⟩

theorem crlfLines_joined (head : Bytes) :
    (crlfLines head).1 ++ (crlfLines head).2.flatMap (fun line => 13 :: 10 :: line) = head := by
  fun_induction crlfLines head with
  | case1 => rfl
  | case2 s ih =>
      rw [List.flatMap_cons, List.nil_append, List.cons_append, List.cons_append, ih]
  | case3 c s _ ih => rw [List.cons_append, ih]

/-- One more line has the last word about the header that it names. -/
theorem lookup_addHeader (headers : List (Bytes × Bytes)) (line name : Bytes) :
    (addHeader headers line).lookup name =
      (headerNamed name line).or (headers.lookup name) := by
  rw [addHeader, headerNamed]
  -- A line without a colon is no header, and is passed over.
  rcases findByte_zero line 58 with ⟨hno, hnone⟩ | ⟨before, rest, hbefore, rfl, hsome⟩
  · rw [hnone, if_neg fun h => hno h.1]
    rfl
  · have hmem : (58 : UInt8) ∈ before ++ 58 :: rest :=
      List.mem_append_right _ List.mem_cons_self
    have hall : ∀ c ∈ before, (c != 58) = true :=
      fun c hc => bne_iff_ne.mpr fun heq => hbefore (heq ▸ hc)
    have htake : (before ++ 58 :: rest).takeWhile (· != 58) = before := by
      rw [List.takeWhile_append_of_pos hall]
      exact List.append_nil before
    have hdrop : (before ++ 58 :: rest).dropWhile (· != 58) = 58 :: rest := by
      rw [List.dropWhile_append_of_pos hall]
      rfl
    rw [hsome, htake, hdrop]
    dsimp only
    rw [lookup_assign, List.take_left, List.drop_length_add_append]
    by_cases hname : name = before.map toLower
    · rw [if_pos hname, if_pos ⟨hmem, hname.symm⟩]
      rfl
    · rw [if_neg hname, if_neg fun h => hname h.2.symm]
      rfl

/-- So the last line with the name counts. -/
theorem lookup_foldl_addHeader (lines : List Bytes) (name : Bytes) :
    (lines.foldl addHeader []).lookup name = lines.reverse.findSome? (headerNamed name) := by
  induction lines using List.reverseRecOn with
  | nil => rfl
  | append_singleton lines line ih =>
      rw [List.foldl_append, List.foldl_cons, List.foldl_nil, lookup_addHeader, ih,
        List.reverse_append, List.reverse_singleton, List.singleton_append, List.findSome?_cons]
      cases headerNamed name line with
      | none => rfl
      | some value => rfl

/-- A request line is refused if it has less than two blanks. -/
theorem parseRequest_eq_none_iff (head : Bytes) :
    parseRequest head = none ↔ (crlfLines head).1.count 32 < 2 := by
  rw [parseRequest]
  dsimp only
  -- The request line is cut at its first blank, and the rest of it at the next.
  rcases findByte_zero (crlfLines head).1 32 with
    ⟨hno, hnone⟩ | ⟨method, rest, hmethod, hline, hsome⟩
  · rw [hnone, List.count_eq_zero_of_not_mem hno]
    exact iff_of_true rfl Nat.two_pos
  · rw [hsome, hline]
    dsimp only
    rw [findByte_append_cons, List.count_append, List.count_eq_zero_of_not_mem hmethod,
      List.count_cons_self, Nat.zero_add]
    rcases findByte_zero rest 32 with ⟨hno, hnone⟩ | ⟨target, version, htarget, heq, hsome'⟩
    · rw [hnone, List.count_eq_zero_of_not_mem hno]
      exact iff_of_true rfl Nat.one_lt_two
    · rw [hsome', heq, List.count_append, List.count_cons_self]
      exact iff_of_false nofun (by omega)

theorem body_of_parseRequest {head : Bytes} {req : HttpRequest}
    (h : parseRequest head = some req) : req.body = [] := by
  rw [parseRequest] at h
  dsimp only at h
  split at h
  · cases h
  · split at h
    · cases h
    · cases h
      rfl

/-- What is read from a header is what it says. -/
theorem stated_of_parseRequest {head : Bytes} {req : HttpRequest}
    (h : parseRequest head = some req) : Stated head req := by
  rw [parseRequest] at h
  dsimp only at h
  rcases findByte_zero (crlfLines head).1 32 with
    ⟨-, hnone⟩ | ⟨method, rest, hmethod, hline, hsome⟩
  · rw [hnone] at h
    cases h
  rw [hsome, hline] at h
  dsimp only at h
  rw [findByte_append_cons] at h
  rcases findByte_zero rest 32 with ⟨-, hnone⟩ | ⟨target, version, htarget, rfl, hsome'⟩
  · rw [hnone] at h
    cases h
  rw [hsome'] at h
  -- What lies between the two blanks is the target.
  have hbetween : ((method ++ 32 :: (target ++ 32 :: version)).drop (method.length + 1)).take
      (method.length + 1 + target.length - method.length - 1) = target := by
    rw [List.drop_length_add_append, List.drop_succ_cons, List.drop_zero,
      show method.length + 1 + target.length - method.length - 1 = target.length by omega,
      List.take_left]
  dsimp only [Option.map_some] at h
  rw [hbetween, List.take_left] at h
  cases h
  refine ⟨(crlfLines_joined head).symm, ⟨target, version, hline, hmethod, htarget, ?_⟩,
    lookup_foldl_addHeader _⟩
  dsimp only
  rcases findByte_zero target 63 with ⟨hno, hnone⟩ | ⟨path, query, hpath, heq, hsome''⟩
  · rw [hnone]
    exact ⟨hno, Or.inl ⟨rfl, rfl⟩⟩
  · rw [hsome'', heq]
    dsimp only
    rw [List.take_left, List.drop_length_add_append]
    exact ⟨hpath, Or.inr rfl⟩

/-- The bytes of some pieces. -/
def joined (recvs : List Chunk) : Bytes := recvs.flatMap Chunk.bytes

/-- The first loop ends with the blank line in the buffer, and no sooner. -/
theorem readHeader_eq (recvs : List Chunk) (data stream : Bytes) (headerEnd : Nat)
    (hstream : data ++ joined recvs = stream) (hfind : find blankLine stream = some headerEnd)
    (hsize : headerEnd + 4 ≤ kMaxHeader) (hopen : data.length < headerEnd + 4) :
    ∃ data' recvs', readHeader data recvs = some (data', headerEnd, recvs') ∧
      data' ++ joined recvs' = stream ∧ headerEnd + 4 ≤ data'.length := by
  induction recvs generalizing data with
  | nil =>
      -- All has arrived, so the blank line has.
      have hle := le_of_find hfind
      rw [← hstream, joined, List.flatMap_nil, List.append_nil] at hle
      exact absurd hopen (not_lt.mpr hle)
  | cons chunk recvs ih =>
      have hjoin : (data ++ chunk.bytes) ++ joined recvs = stream := by
        rw [← hstream, joined, joined, List.flatMap_cons, List.append_assoc]
      rw [readHeader]
      rcases hnow : find blankLine (data ++ chunk.bytes) with _ | i
      · -- Its end is still to come, so the buffer is shorter than the header.
        have hlt := lt_of_find_none hnow (hjoin ▸ hfind)
        have hlen : blankLine.length = 4 := rfl
        rw [hlen] at hlt
        dsimp only
        rw [if_neg (by omega)]
        exact ih (data ++ chunk.bytes) hjoin hlt
      · have hsame : i = headerEnd := by
          have hlater := find_append (joined recvs) hnow
          rw [hjoin, hfind] at hlater
          exact (Option.some.inj hlater).symm
        exact ⟨data ++ chunk.bytes, recvs, by rw [hsame], hjoin, hsame ▸ le_of_find hnow⟩

/-- The second loop ends with the body. -/
theorem readBody_eq (length : Nat) (recvs : List Chunk) (body : Bytes)
    (hlong : length ≤ (body ++ joined recvs).length) :
    ∃ body', readBody length body recvs = some body' ∧
      body'.take length = (body ++ joined recvs).take length := by
  -- By induction on the chunks: reading stops once the body is long enough.
  induction recvs generalizing body with
  | nil =>
      rw [joined, List.flatMap_nil, List.append_nil] at hlong ⊢
      exact ⟨body, if_neg (not_lt.mpr hlong), rfl⟩
  | cons chunk recvs ih =>
      have hjoin : body ++ joined (chunk :: recvs) = (body ++ chunk.bytes) ++ joined recvs := by
        rw [joined, joined, List.flatMap_cons, List.append_assoc]
      rw [readBody]
      by_cases hmore : body.length < length
      · rw [hjoin] at hlong ⊢
        rw [if_pos hmore]
        exact ih (body ++ chunk.bytes) hlong
      · rw [if_neg hmore]
        exact ⟨body, rfl, (List.take_append_of_le_length (not_lt.mp hmore)).symm⟩

/-- What a stream with a header leads to, if the body follows. -/
def outcome (stream : Bytes) (headerEnd : Nat) : Served :=
  match parseRequest (stream.take headerEnd) with
  | none => .refused badRequest
  | some req =>
      if kMaxBody < contentLength req then .refused tooLarge
      else
        .handled { req with body := (stream.drop (headerEnd + 4)).take (contentLength req) }

theorem outcome_ne_dropped (stream : Bytes) (headerEnd : Nat) :
    outcome stream headerEnd ≠ .dropped := by
  rw [outcome]
  rcases parseRequest (stream.take headerEnd) with _ | req
  · exact Served.noConfusion
  · dsimp only
    split_ifs
    · exact Served.noConfusion
    · exact Served.noConfusion

/-- What is handed over is the request in the header, and the body behind it. -/
theorem eq_of_outcome {stream : Bytes} {headerEnd : Nat} {req : HttpRequest}
    (h : outcome stream headerEnd = .handled req) :
    parseRequest (stream.take headerEnd) = some { req with body := [] } ∧
      contentLength req ≤ kMaxBody ∧
      req.body = (stream.drop (headerEnd + 4)).take (contentLength req) := by
  rw [outcome] at h
  rcases hparse : parseRequest (stream.take headerEnd) with _ | found
  · rw [hparse] at h
    cases h
  · rw [hparse] at h
    dsimp only at h
    -- A request is only handed over when its declared length is within the limit.
    split_ifs at h with hlarge
    cases h
    refine ⟨?_, not_lt.mp hlarge, rfl⟩
    have hbody : found.body = [] := body_of_parseRequest hparse
    rw [← hbody]

/-- What is served is a matter of the stream. -/
theorem serve_eq (stream : Bytes) (headerEnd : Nat)
    (hfind : find blankLine stream = some headerEnd) (hsize : headerEnd + 4 ≤ kMaxHeader)
    (hlong : ∀ req, parseRequest (stream.take headerEnd) = some req →
      contentLength req ≤ kMaxBody → headerEnd + 4 + contentLength req ≤ stream.length)
    (recvs : List Chunk) (hstream : joined recvs = stream) :
    serve recvs = outcome stream headerEnd := by
  rcases readHeader_eq recvs [] stream headerEnd hstream hfind hsize
    (by rw [List.length_nil]; omega) with ⟨data, rest, hread, hjoin, hle⟩
  have htake : data.take headerEnd = stream.take headerEnd := by
    rw [← hjoin, List.take_append_of_le_length (by omega)]
  rw [serve, hread, outcome]
  dsimp only
  rw [htake]
  rcases hparse : parseRequest (stream.take headerEnd) with _ | req
  · rfl
  · dsimp only
    by_cases hlarge : kMaxBody < contentLength req
    · rw [if_pos hlarge, if_pos hlarge]
    · rw [if_neg hlarge, if_neg hlarge]
      -- What came with the header, and the rest of the stream, is the body and more.
      have hdrop : data.drop (headerEnd + 4) ++ joined rest = stream.drop (headerEnd + 4) := by
        rw [← hjoin, List.drop_append_of_le_length hle]
      have hbody : contentLength req ≤ (data.drop (headerEnd + 4) ++ joined rest).length := by
        rw [hdrop, List.length_drop]
        have henough := hlong req hparse (not_lt.mp hlarge)
        omega
      rcases readBody_eq (contentLength req) rest _ hbody with ⟨body, hread', htake'⟩
      rw [hread']
      dsimp only
      rw [htake', hdrop]

/-- What is served does not depend on the pieces the stream arrives in. A request line
    without two blanks and a declared length over the limit are refused, and otherwise
    what is handed over is the request in the header, with the bytes behind the blank
    line, as many as declared. -/
theorem serve_independent (stream : Bytes) (headerEnd : Nat)
    (hfind : find blankLine stream = some headerEnd) (hsize : headerEnd + 4 ≤ kMaxHeader)
    (hlong : ∀ req, parseRequest (stream.take headerEnd) = some req →
      contentLength req ≤ kMaxBody → headerEnd + 4 + contentLength req ≤ stream.length)
    (recvs recvs' : List Chunk) (hrecvs : joined recvs = stream)
    (hrecvs' : joined recvs' = stream) :
    serve recvs = outcome stream headerEnd ∧ serve recvs = serve recvs' ∧
      serve recvs ≠ .dropped ∧
      ((crlfLines (stream.take headerEnd)).1.count 32 < 2 →
        serve recvs = .refused badRequest) ∧
      (∀ req, parseRequest (stream.take headerEnd) = some req →
        kMaxBody < contentLength req → serve recvs = .refused tooLarge) ∧
      ∀ req, serve recvs = .handled req →
        parseRequest (stream.take headerEnd) = some { req with body := [] } ∧
          Stated (stream.take headerEnd) req ∧ contentLength req ≤ kMaxBody ∧
          req.body = (stream.drop (headerEnd + 4)).take (contentLength req) ∧
          req.body.length = contentLength req := by
  have hserve := serve_eq stream headerEnd hfind hsize hlong recvs hrecvs
  have hserve' := serve_eq stream headerEnd hfind hsize hlong recvs' hrecvs'
  refine ⟨hserve, hserve.trans hserve'.symm, ?_, ?_, ?_, ?_⟩
  · rw [hserve]
    exact outcome_ne_dropped stream headerEnd
  · intro hblanks
    rw [hserve, outcome, (parseRequest_eq_none_iff _).mpr hblanks]
  · intro req hparse hlarge
    rw [hserve, outcome, hparse]
    exact if_pos hlarge
  · intro req hreq
    rw [hserve] at hreq
    rcases eq_of_outcome hreq with ⟨hparse, hsmall, hbody⟩
    -- The body changes nothing about the headers.
    have hsame : contentLength { req with body := [] } = contentLength req := rfl
    have henough := hlong _ hparse (hsame ▸ hsmall)
    rw [hsame] at henough
    refine ⟨hparse, (stated_of_parseRequest hparse).of_body, hsmall, hbody, ?_⟩
    rw [hbody, List.length_take, List.length_drop]
    omega

/-- A request with two bytes of a body. -/
def hello : Bytes := ascii "POST /api HTTP/1.1\r\nContent-Length: 2\r\n\r\nhi"

/-- It may arrive cut in the blank line. -/
theorem serve_independent_hello :
    serve [⟨hello.take 38, by decide, by decide⟩, ⟨hello.drop 38, by decide, by decide⟩]
      = serve [⟨hello, by decide, by decide⟩] := by
  refine (serve_independent hello 37 (by decide) (by decide) ?_ _ _ (by decide) (by decide)).2.1
  intro req hreq _
  have hall : (parseRequest (hello.take 37)).all
      (fun req => decide (37 + 4 + contentLength req ≤ hello.length)) = true := by decide +kernel
  rw [hreq] at hall
  exact of_decide_eq_true hall

end Service

end ThreadHaul
