import ThreadHaul.Channel.Handshake

/-!
# Malformed Handshakes

When a handshake throws.

A frame that is not JSON, or not an object, or an object that lacks a member,
is rejected. A member that is there with another type than the one it is read
as makes the access throw, and neither handshake catches it. `HelloReadable`,
`ChallengeReadable` and `ProofReadable` say of one frame that no member is read
as what it is not. Which members are read depends on the ones read before, so
a frame of the wrong type may hold anything in its other members.

The second frame is only read once the first one is accepted, so what a
handshake needs is `ClientReadable` and `ServerReadable`: the first frame is
readable, and if it is accepted so is the second.

## Main definitions

* `HelloReadable`, `ChallengeReadable`, `ProofReadable`: One frame.
* `ClientReadable`, `ServerReadable`: All that a handshake reads.

## Theorems

* `clientChallenge_returns_iff`, `serverHello_returns_iff`,
  `checkProof_returns_iff`: One step.
* `clientHandshake_returns_iff`, `serverHandshake_returns_iff`: One handshake.
* `handshakes_return_iff`: Both.
-/

namespace ThreadHaul

namespace Channel

open Json

/-- The member, if the value is an object and has it, passes the test. -/
def Readable (j : Json) (key : String) (test : Json → Bool) : Prop :=
  ∀ members, j = .object members → MemberIs members (ascii key) test

/-- What a client reads of the answer to its hello has its type. -/
structure ChallengeReadable (j : Json) : Prop where
  type : Readable j "type" isString
  message : ¬ HasType j (ascii "challenge") → Readable j "message" isString
  nonce : HasType j (ascii "challenge") → Readable j "nonce" isString

/-- What is read of a proof has its type. -/
structure ProofReadable (j : Json) : Prop where
  type : Readable j "type" isString
  mac : HasType j (ascii "proof") → Readable j "mac" isString

/-- What a server reads of a hello has its type. -/
structure HelloReadable (j : Json) : Prop where
  type : Readable j "type" isString
  version : HasType j (ascii "hello") → Readable j "version" isIntLike
  nonce : HasType j (ascii "hello") → HasVersion j → Readable j "nonce" isString
  host : HasType j (ascii "hello") → HasVersion j → Readable j "host" isString

/-- The frame that is received next, if one is, is a readable proof. -/
def NextProofReadable (p : Primitives) (rxBuffer : Bytes) (turns : List Turn) : Prop :=
  ∀ frame rest, receiveFrame rxBuffer turns = (.received frame, rest) →
    ProofReadable (p.parse frame.val)

/-- The frames the client reads hold no member of another type than the one it
    is read as. -/
def ClientReadable (p : Primitives) (rxBuffer : Bytes) (turns : List Turn) : Prop :=
  ∀ frame rxBuffer' turns', receiveFrame rxBuffer turns = (.received frame, rxBuffer', turns') →
    ChallengeReadable (p.parse frame.val) ∧
      ∀ sn, ChallengeAccepted (p.parse frame.val) sn → NextProofReadable p rxBuffer' turns'

/-- The same for the server. -/
def ServerReadable (p : Primitives) (rxBuffer : Bytes) (turns : List Turn) : Prop :=
  ∀ frame rxBuffer' turns', receiveFrame rxBuffer turns = (.received frame, rxBuffer', turns') →
    HelloReadable (p.parse frame.val) ∧
      ∀ peerHost cn, HelloAccepted (p.parse frame.val) peerHost cn →
        NextProofReadable p rxBuffer' turns'

theorem value_returns_iff_readable {α : Type} (get : Json → Except JsonError α)
    (test : Json → Bool) (hget : ∀ j, Returns (get j) ↔ test j = true) (j : Json)
    (hobj : j.isObject = true) (key : String) (default : α) :
    Returns (j.value get (ascii key) default) ↔ Readable j key test := by
  cases j with
  | object members =>
      rw [value_returns_iff get test hget]
      constructor
      · intro h members' hm
        cases hm
        exact h
      · intro h
        exact h members rfl
  -- The hypothesis rules these out: `value` throws on all that is not an object.
  | discarded | null | boolean b | integer n | float x | string s | array l => cases hobj

theorem readable_of_not_object (j : Json) (hobj : ¬ j.isObject = true) (key : String)
    (test : Json → Bool) : Readable j key test := by
  rintro members rfl
  exact absurd rfl hobj

theorem isObject_of_hasType {j : Json} {type : Bytes} (h : HasType j type) : j.isObject = true := by
  rcases h with ⟨members, rfl, _⟩
  rfl

theorem wrongType_returns_iff (j : Json) (type : Bytes) :
    Returns (wrongType j type) ↔ Readable j "type" isString := by
  by_cases hobj : j.isObject = true
  · rw [← value_returns_iff_readable getString isString getString_returns_iff j hobj "type" []]
    cases j with
    | object members =>
        rw [wrongType_object, returns_bind]
        exact ⟨fun ⟨s, hs, _⟩ => ⟨s, hs⟩, fun ⟨s, hs⟩ => ⟨s, hs, returns_pure _⟩⟩
    | discarded | null | boolean b | integer n | float x | string s | array l => cases hobj
  · rw [wrongType_of_not_object j type hobj]
    exact ⟨fun _ => readable_of_not_object j hobj _ _, fun _ => returns_ok true⟩

/-- A step that first looks at the type of the frame. -/
theorem wrongType_bind_returns_iff {α : Type} (j : Json) (type : Bytes) (ht : type ≠ [])
    (f : Bool → Except JsonError α) :
    Returns (wrongType j type >>= f) ↔
      Readable j "type" isString ∧ (¬ HasType j type → Returns (f true)) ∧
        (HasType j type → Returns (f false)) := by
  have hfalse := wrongType_eq_false_iff j type ht
  -- Either answer is given for one kind of frame only.
  rw [returns_bind, ← wrongType_returns_iff j type]
  constructor
  · rintro ⟨bad, hbad, hf⟩
    cases bad with
    | true =>
        refine ⟨⟨true, hbad⟩, fun _ => hf, fun hty => ?_⟩
        rw [hfalse.mpr hty] at hbad
        cases hbad
    | false => exact ⟨⟨false, hbad⟩, fun hty => absurd (hfalse.mp hbad) hty, fun _ => hf⟩
  · rintro ⟨⟨bad, hbad⟩, htrue, hf⟩
    cases bad with
    | true =>
        refine ⟨true, hbad, htrue fun hty => ?_⟩
        rw [hfalse.mpr hty] at hbad
        cases hbad
    | false => exact ⟨false, hbad, hf (hfalse.mp hbad)⟩

theorem clientChallenge_returns_iff (p : Primitives) (secret host cn frame : Bytes) :
    Returns (clientChallenge p secret host cn frame) ↔ ChallengeReadable (p.parse frame) := by
  have hread := value_returns_iff_readable getString isString getString_returns_iff (p.parse frame)
  unfold clientChallenge
  rw [wrongType_bind_returns_iff _ _ (by decide)]
  simp only [if_true, Bool.false_eq_true, if_false]
  constructor
  · rintro ⟨htype, hmessage, hnonce⟩
    refine ⟨htype, fun hty => ?_, fun hty => ?_⟩
    · -- Of another type: the message is read if there can be one.
      by_cases hobj : (p.parse frame).isObject = true
      · have hm := hmessage hty
        rw [if_pos hobj, returns_bind_of_forall _ _ fun _ => returns_pure _] at hm
        exact (hread hobj "message" _).mp hm
      · exact readable_of_not_object _ hobj _ _
    · rcases (returns_bind _ _).mp (hnonce hty) with ⟨nonce, hn, _⟩
      exact (hread (isObject_of_hasType hty) "nonce" []).mp ⟨nonce, hn⟩
  · rintro ⟨htype, hmessage, hnonce⟩
    refine ⟨htype, fun hty => ?_, fun hty => ?_⟩
    · by_cases hobj : (p.parse frame).isObject = true
      · rw [if_pos hobj, returns_bind_of_forall _ _ fun _ => returns_pure _]
        exact (hread hobj "message" _).mpr (hmessage hty)
      · rw [if_neg hobj]
        exact returns_pure _
    · rw [returns_bind_of_forall]
      · exact (hread (isObject_of_hasType hty) "nonce" []).mpr (hnonce hty)
      · intro nonce
        split <;> exact returns_pure _

theorem checkProof_returns_iff (p : Primitives) (expected frame : Bytes) :
    Returns (checkProof p expected frame) ↔ ProofReadable (p.parse frame) := by
  have hread := value_returns_iff_readable getString isString getString_returns_iff (p.parse frame)
  unfold checkProof
  rw [wrongType_bind_returns_iff _ _ (by decide)]
  simp only [if_true, Bool.false_eq_true, if_false,
    returns_bind_of_forall _ _ fun _ => returns_pure _]
  constructor
  · rintro ⟨htype, _, hmac⟩
    exact ⟨htype, fun hty => (hread (isObject_of_hasType hty) "mac" []).mp (hmac hty)⟩
  · rintro ⟨htype, hmac⟩
    exact ⟨htype, fun _ => returns_pure _,
      fun hty => (hread (isObject_of_hasType hty) "mac" []).mpr (hmac hty)⟩

theorem serverHello_returns_iff (p : Primitives) (secret sn frame : Bytes) :
    Returns (serverHello p secret sn frame) ↔ HelloReadable (p.parse frame) := by
  have hread := value_returns_iff_readable getString isString getString_returns_iff (p.parse frame)
  have hreadInt := value_returns_iff_readable getInt isIntLike getInt_returns_iff (p.parse frame)
  have hversion := value_version_iff (p.parse frame)
  unfold serverHello
  rw [wrongType_bind_returns_iff _ _ (by decide)]
  simp only [if_true, Bool.false_eq_true, if_false, pure_bind]
  constructor
  · rintro ⟨htype, _, h⟩
    refine ⟨htype, fun hty => ?_, fun hty hv => ?_, fun hty hv => ?_⟩
    · -- The version is always read, and the rest only where it is right.
      rcases (returns_bind _ _).mp (h hty) with ⟨version, hv, _⟩
      exact (hreadInt (isObject_of_hasType hty) "version" 0).mp ⟨version, hv⟩
    · rcases (returns_bind _ _).mp (h hty) with ⟨version, hv', h'⟩
      rw [hversion.mpr hv] at hv'
      cases hv'
      rw [bne_self_eq_false, if_neg Bool.false_ne_true] at h'
      rcases (returns_bind _ _).mp h' with ⟨nonce, hn, _⟩
      exact (hread (isObject_of_hasType hty) "nonce" []).mp ⟨nonce, hn⟩
    · rcases (returns_bind _ _).mp (h hty) with ⟨version, hv', h'⟩
      rw [hversion.mpr hv] at hv'
      cases hv'
      rw [bne_self_eq_false, if_neg Bool.false_ne_true] at h'
      rcases (returns_bind _ _).mp h' with ⟨nonce, _, h''⟩
      rcases (returns_bind _ _).mp h'' with ⟨host, hh, _⟩
      exact (hread (isObject_of_hasType hty) "host" []).mp ⟨host, hh⟩
  · rintro ⟨htype, hver, hnonce, hhost⟩
    refine ⟨htype, fun _ => returns_pure _, fun hty => ?_⟩
    have hobj := isObject_of_hasType hty
    rcases (hreadInt hobj "version" 0).mpr (hver hty) with ⟨version, hv⟩
    refine (returns_bind _ _).mpr ⟨version, hv, ?_⟩
    -- Another version is refused before the rest is read.
    by_cases h2 : version = 2
    · subst h2
      have hv2 := hversion.mp hv
      rcases (hread hobj "nonce" []).mpr (hnonce hty hv2) with ⟨nonce, hn⟩
      rcases (hread hobj "host" []).mpr (hhost hty hv2) with ⟨host, hh⟩
      rw [bne_self_eq_false, if_neg Bool.false_ne_true]
      refine (returns_bind _ _).mpr ⟨nonce, hn, (returns_bind _ _).mpr ⟨host, hh, ?_⟩⟩
      split <;> exact returns_pure _
    · have hbad : (version != 2) = true := bne_iff_ne.mpr h2
      rw [if_pos hbad]
      exact returns_pure _

theorem valid_toHex (bytes : Bytes) : Utf8.Valid (toHex bytes) :=
  Utf8.valid_of_ascii _ (toHex_lt bytes)

theorem dump_helloJson (host cn : Bytes) (hhost : Utf8.Valid host) :
    (helloJson host cn).dump = .ok (helloJson host cn) := by
  refine dump_of_allText _ ?_
  simp only [helloJson, allText_object, List.forall_mem_cons, List.not_mem_nil, false_implies,
    implies_true, and_true, allText_integer, allText_string, hhost, valid_toHex]
  decide +kernel

theorem dump_challengeJson (sn : Bytes) :
    (challengeJson sn).dump = .ok (challengeJson sn) := by
  refine dump_of_allText _ ?_
  simp only [challengeJson, allText_object, List.forall_mem_cons, List.not_mem_nil, false_implies,
    implies_true, and_true, allText_string, valid_toHex]
  decide +kernel

theorem dump_proofJson (mac : Bytes) : (proofJson mac).dump = .ok (proofJson mac) := by
  refine dump_of_allText _ ?_
  simp only [proofJson, allText_object, List.forall_mem_cons, List.not_mem_nil, false_implies,
    implies_true, and_true, allText_string, valid_toHex]
  decide +kernel

theorem clientFinish_returns_iff (p : Primitives) (host : Bytes) (keys : Keys) (hello : Json)
    (rxBuffer : Bytes) (turns : List Turn) :
    Returns (clientFinish p host keys hello rxBuffer turns) ↔
      NextProofReadable p rxBuffer turns := by
  unfold clientFinish NextProofReadable
  rw [dump_proofJson, returns_ok_bind]
  rcases hrecv : receiveFrame rxBuffer turns with ⟨r, rxBuffer', turns'⟩
  cases r with
  -- The answer reads one frame, and only `checkProof` can throw on it.
  | received frame =>
      have hcheck := checkProof_returns_iff p (serverMac p keys) frame.val
      simp only [Prod.mk.injEq, ReceiveResult.received.injEq]
      rw [returns_bind_of_forall _ _ (by intro b; cases b <;> exact returns_pure _), hcheck]
      exact ⟨fun h frame' rest heq => by rw [← heq.1]; exact h, fun h => h frame _ ⟨rfl, rfl⟩⟩
  -- Without a frame the handshake gives up, and nothing is read.
  | timeout | broken | waiting =>
      simp only [returns_pure, Prod.mk.injEq, reduceCtorEq, false_and, false_implies, implies_true]

theorem serverFinish_returns_iff (p : Primitives) (sn peerHost : Bytes) (keys : Keys)
    (rxBuffer : Bytes) (turns : List Turn) :
    Returns (serverFinish p sn peerHost keys rxBuffer turns) ↔
      NextProofReadable p rxBuffer turns := by
  unfold serverFinish NextProofReadable
  rw [dump_challengeJson, returns_ok_bind]
  rcases hrecv : receiveFrame rxBuffer turns with ⟨r, rxBuffer', turns'⟩
  cases r with
  -- As for the client: what throws is the check of the proof.
  | received frame =>
      have hcheck := checkProof_returns_iff p (clientMac p keys) frame.val
      simp only [Prod.mk.injEq, ReceiveResult.received.injEq, dump_proofJson]
      rw [returns_bind_of_forall _ _ (by intro b; cases b <;> exact ⟨_, rfl⟩), hcheck]
      exact ⟨fun h frame' rest heq => by rw [← heq.1]; exact h, fun h => h frame _ ⟨rfl, rfl⟩⟩
  | timeout | broken | waiting =>
      simp only [returns_pure, Prod.mk.injEq, reduceCtorEq, false_and, false_implies, implies_true]

/-- A client that gets as far as reading frames throws exactly if one of them
    is not readable. The host name is its own, and is text. -/
theorem clientHandshake_returns_iff (p : Primitives) (secret host cn : Bytes) (helloSent : Bool)
    (hhost : Utf8.Valid host) (rxBuffer : Bytes) (turns : List Turn) :
    Returns (clientHandshake p secret host cn helloSent rxBuffer turns) ↔
      secret.length < kMinSecretLength ∨ helloSent = false ∨ ClientReadable p rxBuffer turns := by
  unfold clientHandshake ClientReadable
  by_cases hsecret : secret.length < kMinSecretLength
  · simp only [hsecret, if_true, returns_ok, true_or]
  rw [if_neg hsecret, dump_helloJson host cn hhost, returns_ok_bind]
  cases helloSent with
  | false => simp only [Bool.not_false, if_true, returns_pure, true_or, or_true]
  | true =>
      simp only [hsecret, Bool.not_true, Bool.false_eq_true, if_false, false_or, Bool.true_eq_false]
      rcases hrecv : receiveFrame rxBuffer turns with ⟨r, rxBuffer', turns'⟩
      cases r with
      | received frame =>
          have hread := clientChallenge_returns_iff p secret host cn frame.val
          simp only [Prod.mk.injEq, ReceiveResult.received.injEq]
          rw [returns_bind]
          constructor
          · rintro ⟨step, hstep, h⟩ frame' rxBuffer'' turns'' ⟨rfl, rfl, rfl⟩
            refine ⟨hread.mp ⟨step, hstep⟩, fun sn hsn => ?_⟩
            -- The challenge is accepted, so this is the step that was taken.
            rw [(clientChallenge_proceeds_iff p secret host cn frame.val sn _).mpr
              ⟨hsn, rfl⟩] at hstep
            cases hstep
            exact (clientFinish_returns_iff p host _ _ rxBuffer' turns').mp h
          · intro h
            rcases h frame rxBuffer' turns' ⟨rfl, rfl, rfl⟩ with ⟨hreadable, hnext⟩
            rcases hread.mpr hreadable with ⟨step, hstep⟩
            refine ⟨step, hstep, ?_⟩
            rcases step with ⟨error, reply⟩ | ⟨sn, keys⟩
            · exact returns_pure _
            · have hacc := ((clientChallenge_proceeds_iff p secret host cn frame.val sn keys).mp
                hstep).1
              exact (clientFinish_returns_iff p host keys _ rxBuffer' turns').mpr (hnext sn hacc)
      | timeout | broken | waiting =>
          simp only [returns_pure, Prod.mk.injEq, reduceCtorEq, false_and, false_implies,
            implies_true]

/-- A server throws exactly if a frame it reads is not readable. -/
theorem serverHandshake_returns_iff (p : Primitives) (secret sn rxBuffer : Bytes)
    (turns : List Turn) :
    Returns (serverHandshake p secret sn rxBuffer turns) ↔ ServerReadable p rxBuffer turns := by
  unfold serverHandshake ServerReadable
  rcases hrecv : receiveFrame rxBuffer turns with ⟨r, rxBuffer', turns'⟩
  cases r with
  | received frame =>
      have hread := serverHello_returns_iff p secret sn frame.val
      simp only [Prod.mk.injEq, ReceiveResult.received.injEq]
      rw [returns_bind]
      constructor
      · -- An accepted hello is followed by the second frame, and nothing else is.
        rintro ⟨step, hstep, h⟩ frame' rxBuffer'' turns'' ⟨rfl, rfl, rfl⟩
        refine ⟨hread.mp ⟨step, hstep⟩, fun peerHost cn hacc => ?_⟩
        rw [(serverHello_proceeds_iff p secret sn frame.val peerHost cn _).mpr
          ⟨hacc, rfl⟩] at hstep
        cases hstep
        exact (serverFinish_returns_iff p sn peerHost _ rxBuffer' turns').mp h
      · intro h
        rcases h frame rxBuffer' turns' ⟨rfl, rfl, rfl⟩ with ⟨hreadable, hnext⟩
        rcases hread.mpr hreadable with ⟨step, hstep⟩
        -- A hello that reads is refused or accepted; a refusal returns at once.
        refine ⟨step, hstep, ?_⟩
        rcases step with ⟨error, reply⟩ | ⟨peerHost, cn, keys⟩
        · exact returns_pure _
        · have hacc := ((serverHello_proceeds_iff p secret sn frame.val peerHost cn keys).mp
            hstep).1
          exact (serverFinish_returns_iff p sn peerHost keys rxBuffer' turns').mpr
            (hnext peerHost cn hacc)
  | timeout | broken | waiting =>
      simp only [returns_ok, Prod.mk.injEq, reduceCtorEq, false_and, false_implies, implies_true]

/-- Neither handshake throws exactly if the frames it reads are readable. -/
theorem handshakes_return_iff (p : Primitives) (secret host cn sn : Bytes) (helloSent : Bool)
    (hhost : Utf8.Valid host) (turns : List Turn) :
    (Returns (clientHandshake p secret host cn helloSent [] turns) ↔
      secret.length < kMinSecretLength ∨ helloSent = false ∨ ClientReadable p [] turns) ∧
    (Returns (serverHandshake p secret sn [] turns) ↔ ServerReadable p [] turns) :=
  ⟨clientHandshake_returns_iff p secret host cn helloSent hhost [] turns,
    serverHandshake_returns_iff p secret sn [] turns⟩

/-- An object whose type is a number, and no other text. -/
def numberedType : Primitives where
  sha256 := id
  hmacSha256 key data := key ++ data
  parse text :=
    if text = ascii "\x7b\"type\":1\x7d" then .object [(ascii "type", .integer 1)]
    else .discarded

/-- A frame that holds `text`, in one chunk. -/
def arrives (text : Bytes) (h : text.length ≤ 8188) : Turn :=
  .arrived
    { bytes := encodeFrame text
      pos := by rw [length_encodeFrame]; omega
      le := by rw [length_encodeFrame]; omega }

/-- A frame that is no JSON at all is rejected by either side. -/
theorem handshakes_return_iff_not_json :
    Returns (clientHandshake numberedType (ascii "sixteen byte key") (ascii "node") [] true []
        [arrives (ascii "hi") (by decide)]) ∧
      Returns (serverHandshake numberedType (ascii "sixteen byte key") [] []
        [arrives (ascii "hi") (by decide)]) := by
  have hrecv : receiveFrame [] [arrives (ascii "hi") (by decide)]
      = (.received ⟨ascii "hi", by decide⟩, [], []) := by decide
  -- What is no object is readable in every field.
  have hnone : ∀ key test, Readable .discarded key test := by
    intro key test members h
    cases h
  have h := handshakes_return_iff numberedType (ascii "sixteen byte key") (ascii "node") [] [] true
    (Utf8.valid_of_all _ rfl) [arrives (ascii "hi") (by decide)]
  refine ⟨h.1.mpr (.inr (.inr ?_)), h.2.mpr ?_⟩
  · intro frame rxBuffer' turns' heq
    rw [hrecv] at heq
    cases heq
    refine ⟨⟨hnone _ _, fun _ => hnone _ _, fun _ => hnone _ _⟩, ?_⟩
    rintro sn ⟨⟨members, hj, _⟩, _, _⟩
    cases hj
  · intro frame rxBuffer' turns' heq
    rw [hrecv] at heq
    cases heq
    refine ⟨⟨hnone _ _, fun _ => hnone _ _, fun _ _ => hnone _ _, fun _ _ => hnone _ _⟩, ?_⟩
    rintro peerHost cn ⟨⟨members, hj, _⟩, _, _, _, _, _⟩
    cases hj

/-- A peer whose first frame is an object with a number as its type makes
    either handshake throw. -/
theorem handshakes_throw_number :
    serverHandshake numberedType (ascii "sixteen byte key") [] []
        [arrives (ascii "\x7b\"type\":1\x7d") (by decide)] = .error .wrongType ∧
      clientHandshake numberedType (ascii "sixteen byte key") (ascii "node") [] true []
        [arrives (ascii "\x7b\"type\":1\x7d") (by decide)] = .error .wrongType := by
  constructor
  · rfl
  · rfl

end Channel

end ThreadHaul
