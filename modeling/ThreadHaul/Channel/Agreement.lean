import ThreadHaul.Channel.Network

/-!
# Agreement

What the handshakes of a hostile network establish.

The proofs of a handshake are codes under the session key, which is a digest of
the secret, both nonces and the host name. The attacker never learns the secret
(`not_knows_psk`), so it never learns a session key (`not_knows_sessionKey`),
and the only proofs it can deliver are those that a session has sent
(`client_of_proof`, `server_of_proof`). The two labels keep the proofs of
clients and servers apart, and since both nonces have 32 bytes the session key
determines nonces and host name (`names_of_sessionKey`). So whoever accepts a
proof has a peer with the same names.

`Sound` is the invariant. Its fields say where each phase, message and fact
comes from; the facts of the log that are already there stay, so every rule
has only its own new entries to account for.

## Main definitions

* `Named`: The keys of a view belong to its names.
* `Matches`: Two sessions with the same names and each other's keys.
* `Sound`: The invariant.

## Theorems

* `not_knows_sessionKey`: Session keys stay secret.
* `client_of_proof`, `server_of_proof`: Where a proof comes from.
* `sound_rule`: Every rule keeps the invariant.
* `agreement`: A handshake that returns true has a peer, and they agree.
-/

namespace ThreadHaul

namespace Channel

open Runs Knowledge

section Views

variable (p : Primitives) (secret : Bytes)

/-- The nonces have 32 bytes, and the keys are those of the names. -/
structure Named (v : View) (isClient : Bool) : Prop where
  clientNonce : v.clientNonce.length = 32
  serverNonce : v.serverNonce.length = 32
  keys : v.keys = deriveKeys p secret v.clientNonce v.serverNonce v.host isClient

end Views

/-- The same names. -/
structure SameNames (v w : View) : Prop where
  host : v.host = w.host
  clientNonce : v.clientNonce = w.clientNonce
  serverNonce : v.serverNonce = w.serverNonce

/-- The two have the same names, and each sends with the key that the other
    receives with. -/
structure Matches (v w : View) : Prop where
  names : SameNames v w
  sends : v.keys.sendKey = w.keys.recvKey
  receives : v.keys.recvKey = w.keys.sendKey

section Keys

variable {p : Primitives} {secret : Bytes}

theorem sessionKey_of_named {v : View} {isClient : Bool} (h : Named p secret v isClient) :
    v.keys.sessionKey = sessionKeyOf p secret v.clientNonce v.serverNonce v.host := by
  rw [h.keys]
  rfl

theorem matches_of_names {v w : View} {isClient : Bool} (hv : Named p secret v isClient)
    (hw : Named p secret w (!isClient)) (h : SameNames v w) : Matches v w := by
  refine ⟨h, ?_, ?_⟩
  · rw [hv.keys, hw.keys, h.host, h.clientNonce, h.serverNonce]
    exact (deriveKeys_mirror p secret _ _ _ isClient).1
  · have hmirror := (deriveKeys_mirror p secret w.clientNonce w.serverNonce w.host (!isClient)).1
    rw [Bool.not_not] at hmirror
    rw [hv.keys, hw.keys, h.host, h.clientNonce, h.serverNonce, hmirror]

/-- The session key determines the names. -/
theorem names_of_sessionKey (hh : IdealHashes p secret) {v w : View} {b c : Bool}
    (hv : Named p secret v b) (hw : Named p secret w c)
    (h : v.keys.sessionKey = w.keys.sessionKey) : SameNames v w := by
  rw [sessionKey_of_named hv, sessionKey_of_named hw] at h
  have hdata := (hh.free.mac_inj _ _ _ _ h).2
  -- The label and the nonces have fixed lengths, so the text splits in one way.
  rw [List.append_assoc, List.append_assoc, List.append_assoc, List.append_assoc] at hdata
  have hnames := List.append_cancel_left hdata
  rcases List.append_inj hnames (hv.clientNonce.trans hw.clientNonce.symm) with ⟨hcn, hrest⟩
  rcases List.append_inj hrest (hv.serverNonce.trans hw.serverNonce.symm) with ⟨hsn, hhost⟩
  exact ⟨hhost, hcn, hsn⟩

end Keys

section Invariant

variable (p : Primitives) (secret : Bytes)

/-- What must have happened for a fact to be noted. -/
def Fact.Justified (sent : List Message) (log : List Fact) : Fact → Prop
  | .clientProved _ v => Named p secret v true ∧ Message.proof (clientMac p v.keys) ∈ sent
  | .clientReturned i v =>
      Fact.clientProved i v ∈ log ∧ ∃ j w, Fact.serverReturned j w ∈ log ∧ SameNames w v
  | .serverDrew _ sn => Message.challenge sn ∈ sent
  | .serverReturned j v =>
      Named p secret v false ∧ Fact.serverDrew j v.serverNonce ∈ log ∧
        ∃ i w, Fact.clientProved i w ∈ log ∧ SameNames w v

/-- What a message may carry. A proof is a client's or a server's own. -/
def Message.Justified (log : List Fact) : Message → Prop
  | .hello host cn => host ∈ Public p secret ∧ cn ∈ Public p secret
  | .challenge sn => sn ∈ Public p secret
  | .proof mac =>
      (∃ i v, Fact.clientProved i v ∈ log ∧ mac = clientMac p v.keys) ∨
        ∃ j v, Fact.serverReturned j v ∈ log ∧ mac = serverMac p v.keys

/-- Where phases, messages and facts come from. -/
structure Sound (net : Network) : Prop where
  facts : ∀ f ∈ net.log, f.Justified p secret net.sent net.log
  messages : ∀ m ∈ net.sent, m.Justified p secret net.log
  /-- A session sends one proof. -/
  provedOnce : ∀ i v w, Fact.clientProved i v ∈ net.log → Fact.clientProved i w ∈ net.log → v = w
  /-- Two sessions do not draw the same nonce. -/
  drewOnce : ∀ j k sn, Fact.serverDrew j sn ∈ net.log → Fact.serverDrew k sn ∈ net.log → j = k
  /-- A session that has sent its proof is past its hello. -/
  unproved : ∀ i v, Fact.clientProved i v ∈ net.log →
    ∃ phase, net.clients i = some phase ∧ ∀ host cn, phase ≠ .waiting host cn
  waiting : ∀ i host cn, net.clients i = some (.waiting host cn) → cn.length = 32
  challenged : ∀ i v, net.clients i = some (.challenged v) → Fact.clientProved i v ∈ net.log
  greeted : ∀ j v, net.servers j = some (.greeted v) →
    Named p secret v false ∧ Fact.serverDrew j v.serverNonce ∈ net.log

end Invariant

section Secrecy

variable {p : Primitives} {secret : Bytes} {net : Network}

theorem not_digest_of_public (m : Bytes) (h : m ∈ Public p secret) :
    ¬ IsDigest p.sha256 p.hmacSha256 m := h.1

/-- The attacker has seen strings that anyone can make, and proofs. -/
theorem seen_cases (hs : Sound p secret net) (m : Bytes) (h : m ∈ net.seen) :
    m ∈ Public p secret ∨
      (∃ i v, Fact.clientProved i v ∈ net.log ∧ m = clientMac p v.keys) ∨
        ∃ j v, Fact.serverReturned j v ∈ net.log ∧ m = serverMac p v.keys := by
  rcases h with ⟨msg, hmsg, hm⟩
  have hjust := hs.messages msg hmsg
  -- Only the two proofs carry material that is not public.
  cases msg with
  | hello host cn =>
      rcases List.mem_cons.mp hm with rfl | hm
      · exact Or.inl hjust.1
      · rw [List.mem_singleton.mp hm]
        exact Or.inl hjust.2
  | challenge sn =>
      rw [List.mem_singleton.mp hm]
      exact Or.inl hjust
  | proof mac =>
      rw [List.mem_singleton.mp hm]
      exact Or.inr hjust

/-- A digest that was seen is a code under one of the two labels. -/
theorem label_of_seen (hs : Sound p secret net) (m : Bytes) (h : m ∈ net.seen)
    (hm : IsDigest p.sha256 p.hmacSha256 m) :
    ∃ key, m = p.hmacSha256 key (ascii "client-proof") ∨
      m = p.hmacSha256 key (ascii "server-proof") := by
  rcases seen_cases hs m h with hpub | ⟨_, v, _, rfl⟩ | ⟨_, v, _, rfl⟩
  · exact absurd hm hpub.1
  · exact ⟨v.keys.sessionKey, Or.inl rfl⟩
  · exact ⟨v.keys.sessionKey, Or.inr rfl⟩

/-- The key of the secret stays secret. -/
theorem not_knows_psk (hh : IdealHashes p secret) (hs : Sound p secret net) :
    ¬ net.Knows p secret (pskOf p secret) := by
  intro h
  rcases knows_hash hh.free not_digest_of_public _ h with hseen | hinput
  · rcases label_of_seen hs _ hseen (Or.inl ⟨_, rfl⟩) with ⟨key, heq | heq⟩
    · exact hh.free.hash_ne_mac _ _ _ heq
    · exact hh.free.hash_ne_mac _ _ _ heq
  · rcases knows_of_not_digest _ hh.secret_not_digest hinput with hpub | hseen
    · exact hpub.2 rfl
    · rcases seen_cases hs _ hseen with hpub | ⟨_, v, _, heq⟩ | ⟨_, v, _, heq⟩
      · exact hpub.2 rfl
      · exact hh.secret_not_digest (Or.inr ⟨_, _, heq⟩)
      · exact hh.secret_not_digest (Or.inr ⟨_, _, heq⟩)

theorem head?_keys (cn sn host : Bytes) :
    (ascii "keys" ++ cn ++ sn ++ host).head? = (ascii "keys").head? := by
  rw [List.append_assoc, List.append_assoc, List.head?_append_of_ne_nil _ (by decide)]

/-- So does every session key. -/
theorem not_knows_sessionKey (hh : IdealHashes p secret) (hs : Sound p secret net)
    (cn sn host : Bytes) : ¬ net.Knows p secret (sessionKeyOf p secret cn sn host) := by
  intro h
  rcases knows_mac hh.free not_digest_of_public _ _ h with hseen | hpsk
  · -- The text of a session key starts with `k`, and no label does.
    rcases label_of_seen hs _ hseen (Or.inr ⟨_, _, rfl⟩) with ⟨key, heq | heq⟩
    · have hhead := congrArg List.head? (hh.free.mac_inj _ _ _ _ heq).2
      rw [head?_keys] at hhead
      exact absurd hhead (by decide)
    · have hhead := congrArg List.head? (hh.free.mac_inj _ _ _ _ heq).2
      rw [head?_keys] at hhead
      exact absurd hhead (by decide)
  · exact not_knows_psk hh hs hpsk

/-- A known code under a session key was seen. -/
theorem seen_of_knows (hh : IdealHashes p secret) (hs : Sound p secret net) {v : View} {b : Bool}
    (hv : Named p secret v b) (label : Bytes)
    (h : net.Knows p secret (p.hmacSha256 v.keys.sessionKey label)) :
    p.hmacSha256 v.keys.sessionKey label ∈ net.seen := by
  rcases knows_mac hh.free not_digest_of_public _ _ h with hseen | hkey
  · exact hseen
  · rw [sessionKey_of_named hv] at hkey
    exact absurd hkey (not_knows_sessionKey hh hs _ _ _)

theorem named_of_proved (hs : Sound p secret net) {i : Nat} {v : View}
    (h : Fact.clientProved i v ∈ net.log) : Named p secret v true := (hs.facts _ h).1

theorem named_of_returned (hs : Sound p secret net) {j : Nat} {v : View}
    (h : Fact.serverReturned j v ∈ net.log) : Named p secret v false := (hs.facts _ h).1

/-- A client's proof comes from a client with these names. -/
theorem client_of_proof (hh : IdealHashes p secret) (hs : Sound p secret net) {v : View}
    {b : Bool} (hv : Named p secret v b) (h : net.Knows p secret (clientMac p v.keys)) :
    ∃ i w, Fact.clientProved i w ∈ net.log ∧ SameNames w v := by
  rcases seen_cases hs _ (seen_of_knows hh hs hv _ h) with
    hpub | ⟨i, w, hw, heq⟩ | ⟨j, w, hw, heq⟩
  · exact absurd (Or.inr ⟨_, _, rfl⟩) hpub.1
  · have hkey := (hh.free.mac_inj _ _ _ _ heq).1
    exact ⟨i, w, hw, names_of_sessionKey hh (named_of_proved hs hw) hv hkey.symm⟩
  · -- A server's proof has the other label.
    exact absurd (hh.free.mac_inj _ _ _ _ heq).2 (by decide)

/-- A server's proof comes from a server with these names. -/
theorem server_of_proof (hh : IdealHashes p secret) (hs : Sound p secret net) {v : View}
    {b : Bool} (hv : Named p secret v b) (h : net.Knows p secret (serverMac p v.keys)) :
    ∃ j w, Fact.serverReturned j w ∈ net.log ∧ SameNames w v := by
  rcases seen_cases hs _ (seen_of_knows hh hs hv _ h) with
    hpub | ⟨i, w, hw, heq⟩ | ⟨j, w, hw, heq⟩
  · exact absurd (Or.inr ⟨_, _, rfl⟩) hpub.1
  · exact absurd (hh.free.mac_inj _ _ _ _ heq).2 (by decide)
  · have hkey := (hh.free.mac_inj _ _ _ _ heq).1
    exact ⟨j, w, hw, names_of_sessionKey hh (named_of_returned hs hw) hv hkey.symm⟩

end Secrecy

section Preservation

variable {p : Primitives} {secret : Bytes} {net : Network}

/-- What justified a fact goes on justifying it. -/
theorem fact_mono {sent sent' : List Message} {log log' : List Fact} (hsent : sent ⊆ sent')
    (hlog : log ⊆ log') (f : Fact) (h : f.Justified p secret sent log) :
    f.Justified p secret sent' log' := by
  cases f with
  | clientProved i v => exact ⟨h.1, hsent h.2⟩
  | clientReturned i v =>
      rcases h with ⟨hproved, j, w, hw, hnames⟩
      exact ⟨hlog hproved, j, w, hlog hw, hnames⟩
  | serverDrew j sn => exact hsent h
  | serverReturned j v =>
      rcases h with ⟨hnamed, hdrew, i, w, hw, hnames⟩
      exact ⟨hnamed, hlog hdrew, i, w, hlog hw, hnames⟩

theorem message_mono {log log' : List Fact} (hlog : log ⊆ log') (m : Message)
    (h : m.Justified p secret log) : m.Justified p secret log' := by
  cases m with
  | hello host cn => exact h
  | challenge sn => exact h
  | proof mac =>
      rcases h with ⟨i, v, hv, hmac⟩ | ⟨j, v, hv, hmac⟩
      · exact Or.inl ⟨i, v, hlog hv, hmac⟩
      · exact Or.inr ⟨j, v, hlog hv, hmac⟩

/-- Old entries stay justified, so the new ones are all there is to show. -/
theorem facts_append {sent ms : List Message} {log fs : List Fact}
    (h : ∀ f ∈ log, f.Justified p secret sent log)
    (hnew : ∀ f ∈ fs, f.Justified p secret (sent ++ ms) (log ++ fs)) :
    ∀ f ∈ log ++ fs, f.Justified p secret (sent ++ ms) (log ++ fs) := by
  intro f hf
  rcases List.mem_append.mp hf with hold | hf
  · exact fact_mono (List.subset_append_left ..) (List.subset_append_left ..) f (h f hold)
  · exact hnew f hf

theorem messages_append {sent ms : List Message} {log fs : List Fact}
    (h : ∀ m ∈ sent, m.Justified p secret log)
    (hnew : ∀ m ∈ ms, m.Justified p secret (log ++ fs)) :
    ∀ m ∈ sent ++ ms, m.Justified p secret (log ++ fs) := by
  intro m hm
  rcases List.mem_append.mp hm with hold | hm
  · exact message_mono (List.subset_append_left ..) m (h m hold)
  · exact hnew m hm

/-- A fact that is no proof and no draw leaves these as they are. -/
def Fact.Plain : Fact → Prop
  | .clientProved .. | .serverDrew .. => False
  | .clientReturned .. | .serverReturned .. => True

theorem proved_of_plain {log fs : List Fact} (hplain : ∀ f ∈ fs, f.Plain) {i : Nat} {v : View}
    (h : Fact.clientProved i v ∈ log ++ fs) : Fact.clientProved i v ∈ log := by
  rcases List.mem_append.mp h with h | h
  · exact h
  · exact absurd (hplain _ h) id

theorem drew_of_plain {log fs : List Fact} (hplain : ∀ f ∈ fs, f.Plain) {j : Nat} {sn : Bytes}
    (h : Fact.serverDrew j sn ∈ log ++ fs) : Fact.serverDrew j sn ∈ log := by
  rcases List.mem_append.mp h with h | h
  · exact h
  · exact absurd (hplain _ h) id

/-- A client starts, or its session is over. -/
theorem sound_client (hs : Sound p secret net) (i : Nat) (o : Outcome ClientPhase)
    (hfacts : ∀ f ∈ o.noted, f.Justified p secret (net.sent ++ o.sent) (net.log ++ o.noted))
    (hmessages : ∀ m ∈ o.sent, m.Justified p secret (net.log ++ o.noted))
    (hplain : ∀ f ∈ o.noted, f.Plain)
    (hphase : o.phase = .ended ∨
      ∃ host cn, o.phase = .waiting host cn ∧ cn.length = 32 ∧ net.clients i = none) :
    Sound p secret (net.client i o) := by
  refine ⟨facts_append hs.facts hfacts, messages_append hs.messages hmessages, ?_, ?_, ?_, ?_, ?_,
    ?_⟩
  · intro k v w hv hw
    exact hs.provedOnce k v w (proved_of_plain hplain hv) (proved_of_plain hplain hw)
  · intro j k sn hj hk
    exact hs.drewOnce j k sn (drew_of_plain hplain hj) (drew_of_plain hplain hk)
  · intro k v hv
    rcases hs.unproved k v (proved_of_plain hplain hv) with ⟨phase, hk, hpast⟩
    by_cases hki : k = i
    · subst hki
      -- A session that has sent its proof is not one that starts.
      rcases hphase with hover | ⟨host, cn, _, _, hnone⟩
      · refine ⟨o.phase, client_self net o, ?_⟩
        rw [hover]
        intro host cn heq
        cases heq
      · rw [hnone] at hk
        cases hk
    · exact ⟨phase, (client_of_ne net _ hki).trans hk, hpast⟩
  · intro k host cn hk
    rcases client_cases net o hk with ⟨rfl, hk'⟩ | hk
    · rcases hphase with hover | ⟨host', cn', hwait, hcn, _⟩
      · rw [hover] at hk'
        cases hk'
      · rw [hwait] at hk'
        cases hk'
        exact hcn
    · exact hs.waiting k host cn hk
  · intro k v hk
    rcases client_cases net o hk with ⟨rfl, hk'⟩ | hk
    · rcases hphase with hover | ⟨host', cn', hwait, _, _⟩
      · rw [hover] at hk'
        cases hk'
      · rw [hwait] at hk'
        cases hk'
    · exact List.mem_append_left _ (hs.challenged k v hk)
  · intro j v hj
    exact ⟨(hs.greeted j v hj).1, List.mem_append_left _ (hs.greeted j v hj).2⟩

/-- A server starts, or its session is over. -/
theorem sound_server (hs : Sound p secret net) (j : Nat) (o : Outcome ServerPhase)
    (hfacts : ∀ f ∈ o.noted, f.Justified p secret (net.sent ++ o.sent) (net.log ++ o.noted))
    (hmessages : ∀ m ∈ o.sent, m.Justified p secret (net.log ++ o.noted))
    (hplain : ∀ f ∈ o.noted, f.Plain) (hphase : ∀ v, o.phase ≠ .greeted v) :
    Sound p secret (net.server j o) := by
  refine ⟨facts_append hs.facts hfacts, messages_append hs.messages hmessages, ?_, ?_, ?_,
    hs.waiting, ?_, ?_⟩
  · intro k v w hv hw
    exact hs.provedOnce k v w (proved_of_plain hplain hv) (proved_of_plain hplain hw)
  · intro k l sn hk hl
    exact hs.drewOnce k l sn (drew_of_plain hplain hk) (drew_of_plain hplain hl)
  · intro k v hv
    exact hs.unproved k v (proved_of_plain hplain hv)
  · intro k v hk
    exact List.mem_append_left _ (hs.challenged k v hk)
  · intro k v hk
    -- Only this session moved, and it did not come to wait for a proof.
    rcases server_cases net o hk with ⟨rfl, hk'⟩ | hk
    · exact absurd hk' (hphase v)
    · have hold := hs.greeted k v hk
      exact ⟨hold.1, List.mem_append_left _ hold.2⟩

/-- A client sends its proof. -/
theorem sound_prove (hs : Sound p secret net) (i : Nat) (v : View) (host cn : Bytes)
    (hi : net.clients i = some (.waiting host cn)) (hv : Named p secret v true) :
    Sound p secret
      (net.client i ⟨.challenged v, [.proof (clientMac p v.keys)], [.clientProved i v]⟩) := by
  have hnone : ∀ w, Fact.clientProved i w ∉ net.log := by
    intro w hw
    rcases hs.unproved i w hw with ⟨phase, hphase, hpast⟩
    rw [hi] at hphase
    exact hpast host cn (Option.some.inj hphase).symm
  -- The new proof is the only one of this session.
  have hproved : ∀ k w, Fact.clientProved k w ∈ net.log ++ [.clientProved i v] →
      (k = i ∧ w = v) ∨ (k ≠ i ∧ Fact.clientProved k w ∈ net.log) := by
    intro k w hw
    rcases List.mem_append.mp hw with hold | hnew
    · refine Or.inr ⟨?_, hold⟩
      rintro rfl
      exact hnone w hold
    · cases List.mem_singleton.mp hnew
      exact Or.inl ⟨rfl, rfl⟩
  refine ⟨facts_append hs.facts ?_, messages_append hs.messages ?_, ?_, ?_, ?_, ?_, ?_, ?_⟩
  · refine List.forall_mem_singleton.mpr ?_
    exact ⟨hv, List.mem_append_right _ (List.mem_singleton_self _)⟩
  · refine List.forall_mem_singleton.mpr ?_
    exact Or.inl ⟨i, v, List.mem_append_right _ (List.mem_singleton_self _), rfl⟩
  · -- Two proofs of one session are one proof.
    intro k w x hw hx
    rcases hproved k w hw with ⟨rfl, rfl⟩ | ⟨hki, hw⟩
    · rcases hproved k x hx with ⟨_, rfl⟩ | ⟨hki, _⟩
      · rfl
      · exact absurd rfl hki
    · rcases hproved k x hx with ⟨rfl, _⟩ | ⟨_, hx⟩
      · exact absurd rfl hki
      · exact hs.provedOnce k w x hw hx
  · intro j k sn hj hk
    refine hs.drewOnce j k sn ?_ ?_
    · simpa only [Network.client, List.mem_append, List.mem_singleton, reduceCtorEq,
        or_false] using hj
    · simpa only [Network.client, List.mem_append, List.mem_singleton, reduceCtorEq,
        or_false] using hk
  · intro k w hw
    rcases hproved k w hw with ⟨rfl, rfl⟩ | ⟨hki, hw⟩
    · refine ⟨.challenged w, client_self net _, ?_⟩
      intro host cn heq
      cases heq
    · rcases hs.unproved k w hw with ⟨phase, hk, hpast⟩
      exact ⟨phase, (client_of_ne net _ hki).trans hk, hpast⟩
  · intro k host' cn' hk
    rcases client_cases net _ hk with ⟨rfl, hk'⟩ | hk
    · cases hk'
    · exact hs.waiting k host' cn' hk
  · intro k w hk
    rcases client_cases net _ hk with ⟨rfl, hk'⟩ | hk
    · cases hk'
      exact List.mem_append_right _ (List.mem_singleton_self _)
    · exact List.mem_append_left _ (hs.challenged k w hk)
  · intro j w hj
    exact ⟨(hs.greeted j w hj).1, List.mem_append_left _ (hs.greeted j w hj).2⟩

/-- A server draws its nonce. -/
theorem sound_challenge (hs : Sound p secret net) (j : Nat) (v : View)
    (hv : Named p secret v false) (hpub : v.serverNonce ∈ Public p secret)
    (hfresh : Message.challenge v.serverNonce ∉ net.sent) :
    Sound p secret (net.server j
      ⟨.greeted v, [.challenge v.serverNonce], [.serverDrew j v.serverNonce]⟩) := by
  have hnone : ∀ k, Fact.serverDrew k v.serverNonce ∉ net.log :=
    fun k hk => hfresh (hs.facts _ hk)
  -- The new nonce is nobody else's.
  have hdrew : ∀ k sn, Fact.serverDrew k sn ∈ net.log ++ [.serverDrew j v.serverNonce] →
      (k = j ∧ sn = v.serverNonce) ∨ (sn ≠ v.serverNonce ∧ Fact.serverDrew k sn ∈ net.log) := by
    intro k sn hk
    rcases List.mem_append.mp hk with hold | hnew
    · refine Or.inr ⟨?_, hold⟩
      rintro rfl
      exact hnone k hold
    · cases List.mem_singleton.mp hnew
      exact Or.inl ⟨rfl, rfl⟩
  have hproved : ∀ k w, Fact.clientProved k w ∈ net.log ++ [.serverDrew j v.serverNonce] →
      Fact.clientProved k w ∈ net.log := by
    intro k w hw
    simpa only [List.mem_append, List.mem_singleton, reduceCtorEq, or_false] using hw
  refine ⟨facts_append hs.facts ?_, messages_append hs.messages ?_, ?_, ?_, ?_, hs.waiting, ?_, ?_⟩
  · refine List.forall_mem_singleton.mpr ?_
    exact List.mem_append_right _ (List.mem_singleton_self _)
  · refine List.forall_mem_singleton.mpr ?_
    exact hpub
  · intro k w x hw hx
    exact hs.provedOnce k w x (hproved k w hw) (hproved k x hx)
  · -- Two servers that drew one nonce: neither, one or both of the facts are new.
    intro k l sn hk hl
    rcases hdrew k sn hk with ⟨rfl, rfl⟩ | ⟨hne, hk⟩
    · rcases hdrew l _ hl with ⟨rfl, _⟩ | ⟨hne, _⟩
      · rfl
      · exact absurd rfl hne
    · rcases hdrew l sn hl with ⟨_, rfl⟩ | ⟨_, hl⟩
      · exact absurd rfl hne
      · exact hs.drewOnce k l sn hk hl
  · intro k w hw
    exact hs.unproved k w (hproved k w hw)
  · intro k w hk
    exact List.mem_append_left _ (hs.challenged k w hk)
  · intro k w hk
    rcases server_cases net _ hk with ⟨rfl, hk'⟩ | hk
    · cases hk'
      exact ⟨hv, List.mem_append_right _ (List.mem_singleton_self _)⟩
    · have hold := hs.greeted k w hk
      exact ⟨hold.1, List.mem_append_left _ hold.2⟩

/-- Every rule keeps the invariant. -/
theorem sound_rule (hh : IdealHashes p secret) {net' : Network} (hs : Sound p secret net)
    (h : Rule p secret net net') : Sound p secret net' := by
  cases h with
  | idle => exact hs
  | hello i host cn hi hcn hhost hpub =>
      refine sound_client hs i _ ?_ ?_ ?_ (Or.inr ⟨host, cn, rfl, hcn, hi⟩)
      · exact List.forall_mem_nil _
      · refine List.forall_mem_singleton.mpr ?_
        exact ⟨hhost, hpub⟩
      · exact List.forall_mem_nil _
  | prove i host cn sn hi hsn =>
      exact sound_prove hs i _ host cn hi ⟨hs.waiting i host cn hi, hsn, rfl⟩
  | clientReturn i v hi hmac =>
      -- The code can only come from a server that proved the same view.
      have hproved := hs.challenged i v hi
      rcases server_of_proof hh hs (named_of_proved hs hproved) hmac with ⟨j, w, hw, hnames⟩
      refine sound_client hs i _ ?_ ?_ ?_ (Or.inl rfl)
      · refine List.forall_mem_singleton.mpr ?_
        exact ⟨List.mem_append_left _ hproved, j, w, List.mem_append_left _ hw, hnames⟩
      · exact List.forall_mem_nil _
      · refine List.forall_mem_singleton.mpr ?_
        exact trivial
  | clientOver i =>
      refine sound_client hs i _ ?_ ?_ ?_ (Or.inl rfl)
      all_goals exact List.forall_mem_nil _
  | listen j hj =>
      refine sound_server hs j _ ?_ ?_ ?_ (fun v h => ServerPhase.noConfusion h)
      all_goals exact List.forall_mem_nil _
  | challenge j host cn sn hcn hsn hpub hfresh =>
      exact sound_challenge hs j (viewOf p secret host cn sn false) ⟨hcn, hsn, rfl⟩ hpub hfresh
  | serverReturn j v hj hmac =>
      -- And this one only from a client.
      rcases hs.greeted j v hj with ⟨hv, hdrew⟩
      rcases client_of_proof hh hs hv hmac with ⟨i, w, hw, hnames⟩
      refine sound_server hs j _ ?_ ?_ ?_ (fun v h => ServerPhase.noConfusion h)
      · refine List.forall_mem_singleton.mpr ?_
        exact ⟨hv, List.mem_append_left _ hdrew, i, w, List.mem_append_left _ hw, hnames⟩
      · refine List.forall_mem_singleton.mpr ?_
        exact Or.inr ⟨j, v, List.mem_append_right _ (List.mem_singleton_self _), rfl⟩
      · refine List.forall_mem_singleton.mpr ?_
        exact trivial
  | serverOver j =>
      refine sound_server hs j _ ?_ ?_ ?_ (fun v h => ServerPhase.noConfusion h)
      all_goals exact List.forall_mem_nil _

end Preservation

/-- What the handshakes have established: `(a)` a server that returned true has
    a client that sent the proof, `(b)` a client that returned true has a server
    that did so too, and `(d)` no two servers have the same client. `(c)` is in
    `Matches`. -/
structure Agreement (p : Primitives) (net : Network) : Prop where
  server : ∀ j v, Fact.serverReturned j v ∈ net.log →
    ∃ i w, Fact.clientProved i w ∈ net.log ∧ Message.proof (clientMac p v.keys) ∈ net.sent ∧
      Matches w v
  client : ∀ i v, Fact.clientReturned i v ∈ net.log →
    ∃ j w, Fact.serverReturned j w ∈ net.log ∧ Matches w v
  distinct : ∀ i j k u u' v w, Fact.serverReturned j v ∈ net.log →
    Fact.serverReturned k w ∈ net.log → Fact.clientProved i u ∈ net.log →
    Fact.clientProved i u' ∈ net.log → SameNames u v → SameNames u' w → j = k

section Result

variable {p : Primitives} {secret : Bytes} {net : Network}

theorem sound_empty : Sound p secret .empty where
  facts := List.forall_mem_nil _
  messages := List.forall_mem_nil _
  provedOnce _ _ _ h := absurd h List.not_mem_nil
  drewOnce _ _ _ h := absurd h List.not_mem_nil
  unproved _ _ h := absurd h List.not_mem_nil
  waiting _ _ _ h := nomatch h
  challenged _ _ h := nomatch h
  greeted _ _ h := nomatch h

theorem agreement_of_sound (hs : Sound p secret net) : Agreement p net := by
  refine ⟨?_, ?_, ?_⟩
  · intro j v hv
    rcases hs.facts _ hv with ⟨hnamed, _, i, w, hw, hnames⟩
    rcases hs.facts _ hw with ⟨hnamed', hproof⟩
    have hmac : clientMac p w.keys = clientMac p v.keys := by
      rw [clientMac, clientMac, sessionKey_of_named hnamed, sessionKey_of_named hnamed',
        hnames.host, hnames.clientNonce, hnames.serverNonce]
    exact ⟨i, w, hw, hmac ▸ hproof, matches_of_names hnamed' hnamed hnames⟩
  · intro i v hv
    rcases hs.facts _ hv with ⟨hproved, j, w, hw, hnames⟩
    exact ⟨j, w, hw, matches_of_names (named_of_returned hs hw) (named_of_proved hs hproved) hnames⟩
  · intro i j k u u' v w hv hw hu hu' hnames hnames'
    -- One client has one proof, and with it one server nonce.
    rw [hs.provedOnce i u' u hu' hu] at hnames'
    have hsn : v.serverNonce = w.serverNonce := hnames.serverNonce.symm.trans hnames'.serverNonce
    have hdrew := (hs.facts _ hv).2.1
    rw [hsn] at hdrew
    exact hs.drewOnce j k _ hdrew (hs.facts _ hw).2.1

/-- Handshakes agree, however many there are and whatever the attacker does. -/
theorem agreement (hh : IdealHashes p secret) (l : List NetEvent)
    (hl : Along (Network.step p secret) (Possible p secret) .empty l) :
    Agreement p (run (Network.step p secret) .empty l) := by
  have hsound : Sound p secret (run (Network.step p secret) .empty l) :=
    run_invariant_along (Network.step p secret) (Possible p secret) (Sound p secret)
      (fun net e he hs => sound_rule hh hs (rule_step hh e he)) l .empty hl sound_empty
  exact agreement_of_sound hsound

end Result

section Example

/-- Two strings in one, the end of the first marked. -/
def pairCode : Bytes → Bytes → Bytes
  | [], d => 0 :: d
  | b :: k, d => 1 :: b :: pairCode k d

theorem pairCode_inj (k d k' d' : Bytes) (h : pairCode k d = pairCode k' d') : k = k' ∧ d = d' := by
  induction k generalizing k' with
  | nil =>
      cases k' with
      | nil => exact ⟨rfl, (List.cons.inj h).2⟩
      | cons b' k' => exact absurd (List.cons.inj h).1 (by decide)
  | cons b k ih =>
      cases k' with
      | nil => exact absurd (List.cons.inj h).1 (by decide)
      | cons b' k' =>
          rcases List.cons.inj (List.cons.inj h).2 with ⟨hb, hrest⟩
          rcases ih k' hrest with ⟨hk, hd⟩
          exact ⟨by rw [hb, hk], hd⟩

/-- A shared secret. -/
def officeSecret : Bytes := ascii "a secret of the office"

/-- A keyed hash from which key and data can be read back. -/
def officeHmac (key data : Bytes) : Bytes := 3 :: pairCode key data

/-- The session key of the host `lab`. -/
def officeKey : Bytes :=
  officeHmac (2 :: pskInput officeSecret)
    (ascii "keys" ++ List.replicate 32 8 ++ List.replicate 32 9 ++ ascii "lab")

/-- Hash functions that forget nothing, and the four frames of a handshake. -/
def officePrimitives : Primitives where
  sha256 data := 2 :: data
  hmacSha256 := officeHmac
  parse
    | [0] => helloJson (ascii "lab") (List.replicate 32 8)
    | [1] => challengeJson (List.replicate 32 9)
    | [2] => proofJson (officeHmac officeKey (ascii "client-proof"))
    | [3] => proofJson (officeHmac officeKey (ascii "server-proof"))
    | _ => .discarded

/-- The attacker forwards everything. -/
def officeRun : List NetEvent :=
  [.startClient 0 (ascii "lab") (List.replicate 32 8), .startServer 0,
    .toServer 0 [0] (List.replicate 32 9), .toClient 0 [1],
    .toServer 0 [2] (List.replicate 32 7), .toClient 0 [3]]

theorem office_not_digest (m : Bytes) (h : m.head? ≠ some 2 ∧ m.head? ≠ some 3) :
    ¬ IsDigest officePrimitives.sha256 officePrimitives.hmacSha256 m := by
  rintro (⟨_, rfl⟩ | ⟨_, _, rfl⟩)
  · exact h.1 rfl
  · exact h.2 rfl

theorem officeHashes : IdealHashes officePrimitives officeSecret where
  free :=
    { hash_inj := fun _ _ h => (List.cons.inj h).2
      mac_inj := fun k m k' m' h => pairCode_inj k m k' m' (List.cons.inj h).2
      hash_ne_mac := fun _ _ _ h => absurd (List.cons.inj h).1 (by decide) }
  hmac_ne_nil _ _ := List.cons_ne_nil _ _
  secret_not_digest := office_not_digest _ (by decide)

/-- A proof that was sent may be delivered. -/
theorem office_forgeable (net : Network) (frame mac : Bytes)
    (hframe : officePrimitives.parse frame = proofJson mac) (hsent : .proof mac ∈ net.sent) :
    net.Forgeable officePrimitives officeSecret frame := by
  rintro s ⟨members, hj, hfind⟩
  rw [hframe] at hj
  cases hj
  cases hfind
  rw [fromHex_toHex]
  exact Knows.read _ ⟨.proof mac, hsent, List.mem_singleton_self _⟩

/-- So may a frame without a code. -/
theorem office_forgeable_of_none (net : Network) (frame : Bytes) (members : List (Bytes × Json))
    (hframe : officePrimitives.parse frame = .object members)
    (hnone : Json.find members (ascii "mac") = none) :
    net.Forgeable officePrimitives officeSecret frame := by
  rintro s ⟨members', hj, hfind⟩
  rw [hframe] at hj
  cases hj
  rw [hnone] at hfind
  cases hfind

theorem office_possible :
    Along (Network.step officePrimitives officeSecret) (Possible officePrimitives officeSecret)
      .empty officeRun := by
  refine ⟨⟨rfl, rfl, ⟨office_not_digest _ (by decide), by decide⟩,
      ⟨office_not_digest _ (by decide), by decide⟩⟩, rfl,
    ⟨office_forgeable_of_none _ _ _ rfl (by decide), rfl,
      ⟨office_not_digest _ (by decide), by decide⟩, by decide +kernel⟩,
    office_forgeable_of_none _ _ _ rfl (by decide),
    ⟨office_forgeable _ _ _ rfl (by decide +kernel), rfl,
      ⟨office_not_digest _ (by decide), by decide⟩, by decide +kernel⟩,
    office_forgeable _ _ _ rfl (by decide +kernel), trivial⟩

/-- One handshake that returns true, and the two have each other. -/
theorem agreement_office :
    Agreement officePrimitives
        (run (Network.step officePrimitives officeSecret) .empty officeRun) ∧
      Fact.clientReturned 0 (viewOf officePrimitives officeSecret (ascii "lab")
        (List.replicate 32 8) (List.replicate 32 9) true) ∈
          (run (Network.step officePrimitives officeSecret) .empty officeRun).log :=
  ⟨agreement officeHashes officeRun office_possible, by decide +kernel⟩

end Example

end Channel

end ThreadHaul
