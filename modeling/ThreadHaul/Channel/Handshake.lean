import ThreadHaul.Channel.Frame
import ThreadHaul.Common.Json

/-!
# The Handshake

`ClientHandshake` and `ServerHandshake`, and the key derivation they share.

A handshake is a sequence of frames, and what it does with one frame is a
definition of its own: `clientChallenge` and `clientProof` for the client,
`serverHello` and `serverProof` for the server. The two functions of the source
are these steps with `ReceiveFrame` in between. A frame is parsed and its
members are read one by one; a member of another type than the one it is read
as throws.

The calls of `ReceiveFrame` have a time-out of their own, so a call that finds
nothing more to read ends like one that times out.

## Main definitions

* `Primitives`: The hash functions and the JSON parser.
* `deriveKeys`: `DeriveKeys`.
* `clientChallenge`, `serverHello`, `checkProof`: The steps.
* `clientHandshake`, `serverHandshake`: The handshakes.
* `ChallengeAccepted`, `HelloAccepted`: Frames with which a handshake goes on.

## Theorems

* `deriveKeys_mirror`: The two ends derive each other's keys.
* `clientChallenge_proceeds_iff`, `serverHello_proceeds_iff`: When a handshake
  goes on.
* `checkProof_eq_true`: What a proof that is accepted carries.
-/

namespace ThreadHaul

namespace Channel

open Json

/-- What the handshake uses: `Sha256`, `HmacSha256`, and the parser of the JSON
    library in the mode in which it does not throw. -/
structure Primitives where
  sha256 : Bytes → Bytes
  hmacSha256 : Bytes → Bytes → Bytes
  parse : Bytes → Json

/-- The least bytes of a shared secret. -/
def kMinSecretLength : Nat := 16

/-- The keys of a channel. -/
structure Keys where
  sessionKey : Bytes
  sendKey : Bytes
  recvKey : Bytes
  isClient : Bool
  deriving DecidableEq

section Derive

variable (p : Primitives) (secret clientNonce serverNonce host : Bytes)

/-- The key of the pre-shared secret. -/
def pskOf : Bytes := p.sha256 (ascii "threadhaul-psk-v2" ++ secret)

/-- The key of a session, from the secret, both nonces and the host name. -/
def sessionKeyOf : Bytes :=
  p.hmacSha256 (pskOf p secret) (ascii "keys" ++ clientNonce ++ serverNonce ++ host)

/-- `DeriveKeys`: one key for each direction. -/
def deriveKeys (isClient : Bool) : Keys :=
  let sessionKey := sessionKeyOf p secret clientNonce serverNonce host
  let c2s := p.hmacSha256 sessionKey (ascii "c2s")
  let s2c := p.hmacSha256 sessionKey (ascii "s2c")
  { sessionKey := sessionKey
    isClient := isClient
    sendKey := if isClient then c2s else s2c
    recvKey := if isClient then s2c else c2s }

/-- What one end sends with, the other receives with. -/
theorem deriveKeys_mirror (isClient : Bool) :
    (deriveKeys p secret clientNonce serverNonce host isClient).sendKey
        = (deriveKeys p secret clientNonce serverNonce host (!isClient)).recvKey ∧
      (deriveKeys p secret clientNonce serverNonce host isClient).sessionKey
        = (deriveKeys p secret clientNonce serverNonce host (!isClient)).sessionKey := by
  cases isClient <;> exact ⟨rfl, rfl⟩

end Derive

/-- The proof that a client sends. -/
def clientMac (p : Primitives) (keys : Keys) : Bytes :=
  p.hmacSha256 keys.sessionKey (ascii "client-proof")

/-- The proof that a server sends. -/
def serverMac (p : Primitives) (keys : Keys) : Bytes :=
  p.hmacSha256 keys.sessionKey (ascii "server-proof")

/-- The first message of a client. -/
def helloJson (host cn : Bytes) : Json :=
  .object [(ascii "type", .string (ascii "hello")), (ascii "version", .integer 2),
    (ascii "host", .string host), (ascii "nonce", .string (toHex cn))]

/-- The answer of a server. -/
def challengeJson (sn : Bytes) : Json :=
  .object [(ascii "type", .string (ascii "challenge")), (ascii "nonce", .string (toHex sn))]

/-- The message with a proof. -/
def proofJson (mac : Bytes) : Json :=
  .object [(ascii "type", .string (ascii "proof")), (ascii "mac", .string (toHex mac))]

/-- The answer to a client of another version. -/
def errorJson : Json :=
  .object [(ascii "type", .string (ascii "error")),
    (ascii "message", .string (ascii "protocol version 2 required"))]

/-- What a step makes of a frame: the handshake is over, with a message for the
    log and possibly one for the peer, or it goes on. -/
inductive Step (α : Type)
  | rejected (error : Bytes) (reply : List Json)
  | proceeds (a : α)

/-- The first condition on a parsed frame: not an object of this type. -/
def wrongType (j : Json) (type : Bytes) : Except JsonError Bool :=
  if j.isDiscarded || !j.isObject then .ok true
  else do
    let found ← j.value Json.getString (ascii "type") []
    return found != type

/-- The client reads the challenge. -/
def clientChallenge (p : Primitives) (secret host cn frame : Bytes) :
    Except JsonError (Step (Bytes × Keys)) := do
  let ch := p.parse frame
  if ← wrongType ch (ascii "challenge") then
    if ch.isObject then
      let message ← ch.value Json.getString (ascii "message") (ascii "handshake rejected")
      return .rejected message []
    else return .rejected (ascii "bad challenge") []
  else
    let nonce ← ch.value Json.getString (ascii "nonce") []
    let sn := fromHex nonce
    if sn.length != 32 then return .rejected (ascii "bad challenge nonce") []
    else return .proceeds (sn, deriveKeys p secret cn sn host true)

/-- Either end checks the other's proof. -/
def checkProof (p : Primitives) (expected frame : Bytes) : Except JsonError Bool := do
  let pr := p.parse frame
  if ← wrongType pr (ascii "proof") then return false
  else
    let mac ← pr.value Json.getString (ascii "mac") []
    return constantTimeEqual (fromHex mac) expected

/-- The server reads the hello and draws its nonce `sn`. -/
def serverHello (p : Primitives) (secret sn frame : Bytes) :
    Except JsonError (Step (Bytes × Bytes × Keys)) := do
  let hello := p.parse frame
  let bad ←
    if ← wrongType hello (ascii "hello") then pure true
    else
      let version ← hello.value Json.getInt (ascii "version") 0
      pure (version != 2)
  if bad then return .rejected (ascii "bad hello or old protocol") [errorJson]
  else
    let nonce ← hello.value Json.getString (ascii "nonce") []
    let cn := fromHex nonce
    let peerHost ← hello.value Json.getString (ascii "host") []
    if cn.length != 32 || peerHost.isEmpty || peerHost.length > 255 then
      return .rejected (ascii "malformed hello") []
    else return .proceeds (peerHost, cn, deriveKeys p secret cn sn peerHost false)

/-- What a handshake comes to when it does not throw. -/
structure HandshakeResult where
  returned : Bool
  error : Bytes
  peerHost : Bytes
  keys : Option Keys
  sent : List Json
  rxBuffer : Bytes
  turns : List Turn

/-- The client from its proof on. -/
def clientFinish (p : Primitives) (host : Bytes) (keys : Keys) (hello : Json) (rxBuffer : Bytes)
    (turns : List Turn) : Except JsonError HandshakeResult := do
  let proof ← (proofJson (clientMac p keys)).dump
  match receiveFrame rxBuffer turns with
  | (.received frame, rxBuffer, turns) =>
      if ← checkProof p (serverMac p keys) frame.val then
        return ⟨true, [], host, some keys, [hello, proof], rxBuffer, turns⟩
      else
        return ⟨false, ascii "controller failed authentication", host, some keys, [hello, proof],
          rxBuffer, turns⟩
  | (_, rxBuffer, turns) =>
      return ⟨false, ascii "controller closed the connection (wrong shared secret?)", host,
        some keys, [hello, proof], rxBuffer, turns⟩

/-- `ClientHandshake`. `cn` is what `RandomBytes` gives, and `helloSent` what
    `SendFrame` returns for the hello. -/
def clientHandshake (p : Primitives) (secret host cn : Bytes) (helloSent : Bool)
    (rxBuffer : Bytes) (turns : List Turn) : Except JsonError HandshakeResult :=
  if secret.length < kMinSecretLength then
    .ok ⟨false, ascii "shared secret must be at least 16 characters", host, none, [], rxBuffer,
      turns⟩
  else do
    let hello ← (helloJson host cn).dump
    if !helloSent then
      return ⟨false, ascii "send failed", host, none, [hello], rxBuffer, turns⟩
    else
      match receiveFrame rxBuffer turns with
      | (.received frame, rxBuffer, turns) =>
          match ← clientChallenge p secret host cn frame.val with
          | .rejected error _ => return ⟨false, error, host, none, [hello], rxBuffer, turns⟩
          | .proceeds (_, keys) => clientFinish p host keys hello rxBuffer turns
      | (_, rxBuffer, turns) =>
          return ⟨false, ascii "no challenge from controller", host, none, [hello], rxBuffer, turns⟩

/-- The server from its challenge on. -/
def serverFinish (p : Primitives) (sn peerHost : Bytes) (keys : Keys) (rxBuffer : Bytes)
    (turns : List Turn) : Except JsonError HandshakeResult := do
  let challenge ← (challengeJson sn).dump
  match receiveFrame rxBuffer turns with
  | (.received frame, rxBuffer, turns) =>
      if ← checkProof p (clientMac p keys) frame.val then
        let proof ← (proofJson (serverMac p keys)).dump
        return ⟨true, [], peerHost, some keys, [challenge, proof], rxBuffer, turns⟩
      else
        return ⟨false, ascii "authentication failed", peerHost, some keys, [challenge], rxBuffer,
          turns⟩
  | (_, rxBuffer, turns) =>
      return ⟨false, ascii "no proof", peerHost, some keys, [challenge], rxBuffer, turns⟩

/-- `ServerHandshake`. `sn` is what `RandomBytes` gives. The host name is of no
    use to the caller unless the handshake succeeds. -/
def serverHandshake (p : Primitives) (secret sn : Bytes) (rxBuffer : Bytes)
    (turns : List Turn) : Except JsonError HandshakeResult :=
  match receiveFrame rxBuffer turns with
  | (.received frame, rxBuffer, turns) => do
      match ← serverHello p secret sn frame.val with
      | .rejected error reply => return ⟨false, error, [], none, reply, rxBuffer, turns⟩
      | .proceeds (peerHost, _, keys) => serverFinish p sn peerHost keys rxBuffer turns
  | (_, rxBuffer, turns) => .ok ⟨false, ascii "no hello", [], none, [], rxBuffer, turns⟩

section Steps

/-- The value is an object whose member `type` is this string. -/
def HasType (j : Json) (type : Bytes) : Prop :=
  ∃ members, j = .object members ∧ find members (ascii "type") = some (.string type)

/-- The protocol version converts to 2. -/
def HasVersion (j : Json) : Prop :=
  ∃ members member, j = .object members ∧ find members (ascii "version") = some member ∧
    member.getInt = .ok 2

/-- The value is an object, and the member is this string. -/
def HasString (j : Json) (key : String) (s : Bytes) : Prop :=
  ∃ members, j = .object members ∧ find members (ascii key) = some (.string s)

/-- A challenge with a nonce of 32 bytes. -/
structure ChallengeAccepted (j : Json) (sn : Bytes) : Prop where
  type : HasType j (ascii "challenge")
  nonce : ∃ s, HasString j "nonce" s ∧ fromHex s = sn
  nonce_length : sn.length = 32

/-- A hello of version 2 with a nonce of 32 bytes and a host name. -/
structure HelloAccepted (j : Json) (peerHost cn : Bytes) : Prop where
  type : HasType j (ascii "hello")
  version : HasVersion j
  nonce : ∃ s, HasString j "nonce" s ∧ fromHex s = cn
  host : HasString j "host" peerHost
  nonce_length : cn.length = 32
  host_length : 0 < peerHost.length ∧ peerHost.length ≤ 255

theorem wrongType_of_not_object (j : Json) (type : Bytes) (h : ¬ j.isObject = true) :
    wrongType j type = .ok true := by
  have hb : (j.isDiscarded || !j.isObject) = true := by
    rw [Bool.not_eq_true] at h
    rw [h, Bool.not_false, Bool.or_true]
  rw [wrongType, if_pos hb]

theorem wrongType_object (members : List (Bytes × Json)) (type : Bytes) :
    wrongType (.object members) type
      = ((Json.object members).value Json.getString (ascii "type") []) >>=
          fun found => pure (found != type) := rfl

/-- The type is the expected one. -/
theorem wrongType_eq_false_iff (j : Json) (type : Bytes) (ht : type ≠ []) :
    wrongType j type = .ok false ↔ HasType j type := by
  by_cases hobj : j.isObject = true
  · cases j with
    | object members =>
        rw [wrongType_object, bind_eq_ok_iff]
        -- The default of the look-up is the empty text, so a match was really found.
        constructor
        · rintro ⟨found, hfound, hne⟩
          have heq : found = type := by
            have hfalse : (found != type) = false := Except.ok.inj hne
            exact bne_eq_false_iff_eq.mp hfalse
          rw [heq] at hfound
          exact ⟨members, rfl, (value_string_eq_ok_iff members _ [] type ht).mp hfound⟩
        · rintro ⟨members', hm, hfind⟩
          cases hm
          refine ⟨type, (value_string_eq_ok_iff members _ [] type ht).mpr hfind, ?_⟩
          rw [bne_self_eq_false]
          rfl
    | discarded | null | boolean b | integer n | float x | string s | array l => cases hobj
  · -- Only objects have a type.
    rw [wrongType_of_not_object j type hobj]
    constructor
    · intro h
      cases h
    · rintro ⟨members, rfl, _⟩
      exact absurd rfl hobj

theorem hasString_of_value {j : Json} {key : String} {s : Bytes} {members : List (Bytes × Json)}
    (hj : j = .object members) (hs : s ≠ [])
    (h : j.value Json.getString (ascii key) [] = .ok s) : HasString j key s := by
  subst hj
  exact ⟨members, rfl, (value_string_eq_ok_iff members _ [] s hs).mp h⟩

theorem value_of_hasString {j : Json} {key : String} {s : Bytes} (h : HasString j key s) :
    j.value Json.getString (ascii key) [] = .ok s := by
  rcases h with ⟨members, rfl, hfind⟩
  simp only [value, hfind, getString]

/-- The default of the version is not 2, so the member is there. -/
theorem value_version_iff (j : Json) :
    j.value Json.getInt (ascii "version") 0 = .ok 2 ↔ HasVersion j := by
  constructor
  · intro h
    cases j with
    | object members =>
        rcases value_eq_ok getInt members _ 0 2 h with ⟨_, hzero⟩ | ⟨m, hm, hget⟩
        · exact absurd hzero (by decide)
        · exact ⟨members, m, rfl, hm, hget⟩
    | discarded | null | boolean b | integer n | float x | string s | array l => cases h
  · rintro ⟨members, m, rfl, hm, hget⟩
    simp only [value, hm, hget]

/-- An empty string is no hexadecimal text of 32 bytes. -/
theorem ne_nil_of_fromHex_length {s : Bytes} (h : (fromHex s).length = 32) : s ≠ [] := by
  rintro rfl
  exact absurd h (by decide)

/-- The client goes on exactly with an acceptable challenge. -/
theorem clientChallenge_proceeds_iff (p : Primitives) (secret host cn frame sn : Bytes)
    (keys : Keys) :
    clientChallenge p secret host cn frame = .ok (.proceeds (sn, keys)) ↔
      ChallengeAccepted (p.parse frame) sn ∧ keys = deriveKeys p secret cn sn host true := by
  have htype := wrongType_eq_false_iff (p.parse frame) (ascii "challenge") (by decide)
  unfold clientChallenge
  rw [bind_eq_ok_iff]
  constructor
  · rintro ⟨bad, hbad, h⟩
    cases bad with
    | true =>
        simp only [if_true] at h
        -- A frame of another type ends the handshake, with or without a message.
        split at h
        · rw [bind_eq_ok_iff] at h
          rcases h with ⟨_, _, h⟩
          cases h
        · cases h
    | false =>
        rcases htype.mp hbad with ⟨members, hj, hfind⟩
        simp only [Bool.false_eq_true, if_false, bind_eq_ok_iff] at h
        rcases h with ⟨nonce, hnonce, h⟩
        split at h
        · cases h
        · rename_i hlen
          have hlen' : (fromHex nonce).length = 32 := by
            simpa only [bne_iff_ne, ne_eq, not_not] using hlen
          -- What is left are the checks that were passed.
          cases h
          exact ⟨⟨⟨members, hj, hfind⟩,
            ⟨nonce, hasString_of_value hj (ne_nil_of_fromHex_length hlen') hnonce, rfl⟩,
            hlen'⟩, rfl⟩
  · rintro ⟨⟨ht, ⟨s, hs, hsn⟩, hlen⟩, rfl⟩
    refine ⟨false, htype.mpr ht, ?_⟩
    simp only [Bool.false_eq_true, if_false, bind_eq_ok_iff]
    refine ⟨s, value_of_hasString hs, ?_⟩
    rw [hsn, if_neg (by rw [hlen]; decide)]
    rfl

/-- A proof that is accepted carries the expected code, unless that is empty. -/
theorem checkProof_eq_true (p : Primitives) (expected frame : Bytes) (he : expected ≠ [])
    (h : checkProof p expected frame = .ok true) :
    HasType (p.parse frame) (ascii "proof") ∧
      ∃ s, HasString (p.parse frame) "mac" s ∧ fromHex s = expected := by
  have htype := wrongType_eq_false_iff (p.parse frame) (ascii "proof") (by decide)
  unfold checkProof at h
  rw [bind_eq_ok_iff] at h
  rcases h with ⟨bad, hbad, h⟩
  cases bad with
  | true => cases h
  | false =>
      rcases htype.mp hbad with ⟨members, hj, hfind⟩
      simp only [Bool.false_eq_true, if_false, bind_eq_ok_iff] at h
      rcases h with ⟨mac, hmac, h⟩
      have heq : fromHex mac = expected := (constantTimeEqual_iff _ _).mp (Except.ok.inj h)
      -- A missing mac reads as the empty text, which is no mac at all.
      have hne : mac ≠ [] := by
        rintro rfl
        exact he heq.symm
      exact ⟨⟨members, hj, hfind⟩, mac, hasString_of_value hj hne hmac, heq⟩

/-- The server goes on exactly with an acceptable hello. -/
theorem serverHello_proceeds_iff (p : Primitives) (secret sn frame peerHost cn : Bytes)
    (keys : Keys) :
    serverHello p secret sn frame = .ok (.proceeds (peerHost, cn, keys)) ↔
      HelloAccepted (p.parse frame) peerHost cn ∧
        keys = deriveKeys p secret cn sn peerHost false := by
  have htype := wrongType_eq_false_iff (p.parse frame) (ascii "hello") (by decide)
  unfold serverHello
  rw [bind_eq_ok_iff]
  constructor
  · rintro ⟨bad, hbad, h⟩
    cases bad with
    | true => cases h
    | false =>
        rcases htype.mp hbad with ⟨members, hj, hfind⟩
        simp only [Bool.false_eq_true, if_false, bind_eq_ok_iff] at h
        -- The fields in the order in which they are read: the version first.
        rcases h with ⟨version, hversion, bad, hbad', h⟩
        cases hbad'
        split at h
        · cases h
        · rename_i hv
          have hv' : version = 2 := by
            simpa only [bne_iff_ne, ne_eq, not_not] using hv
          simp only [bind_eq_ok_iff] at h
          -- Then the nonce and the host, which are checked together.
          rcases h with ⟨nonce, hnonce, host, hhost, h⟩
          split at h
          · cases h
          · rename_i hbad
            simp only [Bool.or_eq_true, bne_iff_ne, ne_eq, decide_eq_true_eq, not_or, not_not,
              List.isEmpty_iff] at hbad
            rcases hbad with ⟨⟨hlen, hempty⟩, hshort⟩
            cases h
            rw [hv'] at hversion
            exact ⟨⟨⟨members, hj, hfind⟩, (value_version_iff _).mp hversion,
              ⟨nonce, hasString_of_value hj (ne_nil_of_fromHex_length hlen) hnonce, rfl⟩,
              hasString_of_value hj hempty hhost, hlen,
              List.length_pos_of_ne_nil hempty, by omega⟩, rfl⟩
  · rintro ⟨⟨ht, hv, ⟨s, hs, hcn⟩, hhost, hlen, hpos, hshort⟩, rfl⟩
    refine ⟨false, htype.mpr ht, ?_⟩
    simp only [Bool.false_eq_true, if_false, bind_eq_ok_iff]
    refine ⟨2, (value_version_iff _).mpr hv, false, rfl, ?_⟩
    simp only [Bool.false_eq_true, if_false, bind_eq_ok_iff]
    refine ⟨s, value_of_hasString hs, peerHost, value_of_hasString hhost, ?_⟩
    have hgood : ¬ (List.length (fromHex s) != 32 || List.isEmpty peerHost ||
        decide (List.length peerHost > 255)) = true := by
      simp only [Bool.or_eq_true, bne_iff_ne, ne_eq, decide_eq_true_eq, not_or, not_not,
        List.isEmpty_iff, hcn]
      exact ⟨⟨hlen, List.ne_nil_of_length_pos hpos⟩, by omega⟩
    rw [if_neg hgood, hcn]
    rfl

end Steps

end Channel

end ThreadHaul
