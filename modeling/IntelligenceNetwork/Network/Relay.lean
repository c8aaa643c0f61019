import IntelligenceNetwork.Network.ConnectionEvents
import IntelligenceNetwork.Network.VersionGate

/-
  Messages that go through a relay.

  The target checks the signature of the origin and keeps
  nothing of what it has read, so that a relay can hand over
  the same envelope again.

  Main declarations:
    * `handleRelayEnvelope`
    * `HandsOverOnce`
    * `relayed_le_sent`
-/

----
-- Sending
----

namespace IntelligenceNetwork.Network

open Transition

structure Identity where
  nodeId : NodeId
  publicKey : PublicKey
  sign : List UInt8 → List UInt8

/- What is signed besides the public key. -/
structure RelayContent where
  sessionId : RequestId
  (origin target : NodeId)
  payload : List UInt8
  deriving DecidableEq

def relayContent (envelope : RelayEnvelope) : RelayContent :=
  ⟨envelope.sessionId, envelope.origin, envelope.target, envelope.payload⟩

/- The serializers that both ends share. -/
structure RelayCodec where
  postcard : Postcard
  signingBytes : RelayContent → Except String (List UInt8)

abbrev RelaySessionIds := List ((NodeId × NodeId) × RequestId)

/- What a call finds: a new id, the peers, and how the queue of the relay is. -/
structure RelayCall where
  fresh : RequestId
  peers : PeerState
  senderClosed : Nat → Bool
  connectionClosed : Nat → Bool
  queued : Bool

section

variable (hashing : Hashing) (codec : RelayCodec) (relay target : NodeId) (message : Message)

def relayPayload : Except NetworkError (List UInt8) :=
  if relay = target then
    .error .notConnected
  else do
    (message.validate hashing).mapError (fun error => .peerProtocol error.text)
    let payload ← (codec.postcard.toAllocvec message).mapError .peerProtocol
    if payload.length > maxRelayPayload then
      .error (.peerProtocol "message is too large for relay transport")
    else
      .ok payload

def relayReached (call : RelayCall) : Except NetworkError Unit :=
  if (call.peers.versions[relay]?.elim 0 (·.value)) < messageRequiredMinor message then
    .error (.peerProtocol "message requires protocol minor 1")
  else
    match call.peers.senders[relay]? with
    | none => .error .notConnected
    | some sender =>
      if call.senderClosed sender || call.peers.connections[relay]?.any call.connectionClosed ||
        !call.queued then
        .error .notConnected
      else
        .ok ()

/- The id of the session is kept even if the relay is not reached. -/
def sendViaRelay (identity : Identity) (call : RelayCall) (sessionIds : RelaySessionIds) :
    RelaySessionIds × Except NetworkError RelayEnvelope :=
  match relayPayload hashing codec relay target message with
  | .error error => (sessionIds, .error error)
  | .ok payload =>
    let known := (sessionIds.find? (·.1 == (relay, target))).map (·.2)
    let sessionId := known.getD call.fresh
    (if known.isSome then sessionIds else ((relay, target), sessionId) :: sessionIds, do
      let bytes ← (codec.signingBytes ⟨sessionId, identity.nodeId, target, payload⟩).mapError
        .peerProtocol
      relayReached relay message call
      .ok ⟨sessionId, identity.nodeId, identity.publicKey, target, payload, identity.sign bytes⟩)

end

----
-- Receiving
----

structure RelaySession where
  (origin target : NodeId)
  (bytes lastActivity : UInt64)

structure RelaySettings where
  relayEnabled : Bool
  relayMaxBytes : UInt64
  relayMaxSessions : Nat

/- Routes to origins, and the sessions that the node relays. -/
structure RelayTables where
  relayRoutes : Std.TreeMap NodeId NodeId
  relaySessions : Std.TreeMap RequestId RelaySession

section

variable (host : Host) (codec : RelayCodec) (settings : RelaySettings)

def authenticate (envelope : RelayEnvelope) : Except NetworkError Unit :=
  match envelope.validate host.hashing with
  | .error error => .error (.peerProtocol error.text)
  | .ok () =>
    match codec.signingBytes (relayContent envelope) with
    | .error reason => .error (.peerProtocol reason)
    | .ok bytes =>
      if host.signing.verify envelope.originPublicKey bytes envelope.signature then
        .ok ()
      else
        .error .identityVerification

/- What the target makes of a payload. -/
def openPayload (payload : List UInt8) : Except NetworkError (Option Message) :=
  match codec.postcard.fromBytes payload with
  | .error reason => .error (.peerProtocol reason)
  | .ok inner =>
    match inner.validate host.hashing with
    | .error error => .error (.peerProtocol error.text)
    | .ok () =>
      match inner with
      | .relayEnvelope _ => .error (.peerProtocol "nested relay envelopes are not accepted")
      | _ => .ok (some inner)

/- A session that was idle for a minute is gone. -/
def relayEnvelope (now : UInt64) (tables : RelayTables) (envelope : RelayEnvelope) :
    RelayTables × Except NetworkError (Option Message) :=
  let sessions := tables.relaySessions.filter (fun _ session =>
    Saturating.sub now session.lastActivity ≤ 60)
  let length := UInt64.ofNat envelope.payload.length
  match sessions[envelope.sessionId]? with
  | some session =>
    if session.origin ≠ envelope.origin ∨ session.target ≠ envelope.target then
      ({ tables with relaySessions := sessions },
        .error (.peerProtocol "relay session identity changed"))
    else
      let bytes := Saturating.add session.bytes length
      let sessions := sessions.insert envelope.sessionId
        { session with bytes := bytes, lastActivity := now }
      ({ tables with relaySessions := sessions },
        if bytes > settings.relayMaxBytes then
          .error (.peerProtocol "relay session byte limit exceeded")
        else
          .ok none)
  | none =>
    if sessions.size ≥ settings.relayMaxSessions then
      ({ tables with relaySessions := sessions },
        .error (.peerProtocol "relay session limit exceeded"))
    else
      ({ tables with
        relaySessions := sessions.insert envelope.sessionId
          ⟨envelope.origin, envelope.target, length, now⟩ }, .ok none)

/- Nothing to go on with is left where the envelope is passed on. -/
def handleRelayEnvelope (now : UInt64) (tables : RelayTables) (authenticatedPeer : NodeId)
    (envelope : RelayEnvelope) : RelayTables × Except NetworkError (Option Message) :=
  match authenticate host codec envelope with
  | .error error => (tables, .error error)
  | .ok () =>
    if envelope.target = host.node then
      (if authenticatedPeer ≠ envelope.origin then
        { tables with
          relayRoutes := tables.relayRoutes.insert envelope.origin authenticatedPeer }
        else
          tables, openPayload host codec envelope.payload)
    else if !settings.relayEnabled then
      (tables, .error (.peerProtocol "peer is not configured as a relay"))
    else
      relayEnvelope settings now tables envelope

theorem handleRelayEnvelope_opened {now : UInt64} {tables : RelayTables}
    {authenticatedPeer : NodeId} {envelope : RelayEnvelope} {inner : Message}
    (hOpened : (handleRelayEnvelope host codec settings now tables authenticatedPeer envelope).2 =
      .ok (some inner)) :
    authenticate host codec envelope = .ok () ∧ envelope.target = host.node := by
  unfold handleRelayEnvelope at hOpened
  split at hOpened
  · cases hOpened
  · rename_i hAuthentic
    split_ifs at hOpened with hTarget
    · exact ⟨hAuthentic, hTarget⟩
    · exact ⟨hAuthentic, hTarget⟩
    · unfold relayEnvelope at hOpened
      dsimp only at hOpened
      split at hOpened
      · split_ifs at hOpened
        cases hOpened
      · split_ifs at hOpened
        cases hOpened

end

----
-- One Envelope in the Read Loop
----

section

variable (host : Host) (env : WorkEnv)

/- The work for one message, up to a call that fails. -/
def finishWork (peers : PeerState) : List Work → PeerState × List NetworkEvent
| [] => (peers, [])
| item :: left =>
  match runWork host env peers item with
  | (peers, .error _) => (peers, [])
  | (peers, .ok ()) =>
    let rest := finishWork peers left
    (rest.1, item.emitted.toList ++ rest.2)

theorem finishWork_sublist (peers : PeerState) (left : List Work) :
    (finishWork host env peers left).2.Sublist (left.filterMap Work.emitted) := by
  induction left generalizing peers with
  | nil => exact List.Sublist.refl _
  | cons item left ih =>
    rw [finishWork]
    rcases runWork host env peers item with ⟨after, result⟩
    cases result with
    | error error => exact List.nil_sublist _
    | ok value =>
      cases hEmitted : item.emitted with
      | none =>
        rw [List.filterMap_cons_none hEmitted]
        exact ih after
      | some event =>
        rw [List.filterMap_cons_some hEmitted]
        exact (ih after).cons_cons event

/- A message is passed on once, at the end of its work. -/
theorem dispatch_emitted {minor : UInt16} {peer : NodeId} {message : Message} {works : List Work}
    (hWorks : dispatch host minor peer message = some works) :
    (works.filterMap Work.emitted).Sublist [.message peer message] := by
  have hLearned : ∀ announcements : List SignedAnnouncement,
    ((announcements.map Work.upsertPeer) ++ [Work.forward peer message]).filterMap Work.emitted =
      [.message peer message] := by
    intro announcements
    simp [List.filterMap_append, List.filterMap_map, Function.comp_def, Work.emitted]
  have hRotated : ∀ rotations : List KeyRotation,
    ((rotations.map Work.keyRotation) ++ [Work.forward peer message]).filterMap Work.emitted =
      [.message peer message] := by
    intro rotations
    simp [List.filterMap_append, List.filterMap_map, Function.comp_def, Work.emitted]
  unfold dispatch at hWorks
  split at hWorks
  all_goals try split_ifs at hWorks
  all_goals cases hWorks
  · exact List.nil_sublist _
  · exact List.Sublist.refl _
  · exact List.nil_sublist _
  · exact List.Sublist.refl _
  · rw [hLearned]
  · rw [hLearned]
  · exact List.Sublist.refl _
  · rw [hRotated]
  · exact List.Sublist.refl _
  · exact List.nil_sublist _
  · exact List.Sublist.refl _
  · exact List.Sublist.refl _

/- What the reader tells after an envelope was handled. -/
def relayedEvents (minor : UInt16) (authenticatedPeer origin : NodeId) (peers : PeerState) :
    Except NetworkError (Option Message) → PeerState × List NetworkEvent
| .error error => (peers, [.protocolError authenticatedPeer error])
| .ok none => (peers, [])
| .ok (some inner) => finishWork host env peers ((dispatch host minor origin inner).getD [])

/- An event with a message, from the origin. -/
def NetworkEvent.isFrom (origin : NodeId) : NetworkEvent → Bool
| .message peer _ => peer == origin
| _ => false

theorem relayedEvents_from (minor : UInt16) (authenticatedPeer origin sender : NodeId)
    (peers : PeerState) (outcome : Except NetworkError (Option Message)) :
    ((relayedEvents host env minor authenticatedPeer origin peers outcome).2.countP
      (·.isFrom sender)) ≤ 1 ∧
      (0 < (relayedEvents host env minor authenticatedPeer origin peers outcome).2.countP
        (·.isFrom sender) → origin = sender ∧ ∃ inner, outcome = .ok (some inner)) := by
  match outcome with
  | .error error => exact ⟨by simp [relayedEvents, NetworkEvent.isFrom],
    by simp [relayedEvents, NetworkEvent.isFrom]⟩
  | .ok none => exact ⟨by simp [relayedEvents], by simp [relayedEvents]⟩
  | .ok (some inner) =>
    have hEvents : (relayedEvents host env minor authenticatedPeer origin peers
      (.ok (some inner))).2.Sublist [.message origin inner] := by
      refine (finishWork_sublist host env peers _).trans ?_
      cases hWorks : dispatch host minor origin inner with
      | none => exact List.nil_sublist _
      | some works => exact dispatch_emitted host hWorks
    have hCount := hEvents.countP_le (p := (NetworkEvent.isFrom sender))
    refine ⟨hCount.trans (List.countP_le_length), ?_⟩
    intro hSome
    refine ⟨?_, inner, rfl⟩
    have hOne := hSome.trans_le hCount
    by_contra hOther
    simp [NetworkEvent.isFrom, hOther] at hOne

end

----
-- The Relay
----

/-
  The origin and the target, with everything that was given to
  a relay and everything that it has handed over.
-/
structure RelayNet where
  sessionIds : RelaySessionIds
  calls : List (NodeId × Message)
  (given handedOver : List RelayContent)
  tables : RelayTables
  peers : PeerState
  events : List (List UInt8 × NetworkEvent)

/- The relay may hand over anything, at any time, on any connection. -/
inductive RelayAction where
  | send (call : RelayCall) (relay target : NodeId) (message : Message)
  | handOver (now : UInt64) (env : WorkEnv) (minor : UInt16) (authenticatedPeer : NodeId)
    (envelope : RelayEnvelope)
  | elsewhere (sessionIds : RelaySessionIds) (tables : RelayTables) (peers : PeerState)

section

variable (host : Host) (codec : RelayCodec) (settings : RelaySettings) (identity : Identity)

/- Nobody else can sign for the origin. -/
def forged (net : RelayNet) (envelope : RelayEnvelope) : Bool :=
  (authenticate host codec envelope).isOk && envelope.origin == identity.nodeId &&
    !net.given.contains (relayContent envelope)

def relayStep (net : RelayNet) : RelayAction → Option RelayNet
| .send call relay target message =>
  let sent := sendViaRelay host.hashing codec relay target message identity call net.sessionIds
  some { net with
      sessionIds := sent.1
      calls := (target, message) :: net.calls
      given :=
        match sent.2 with
        | .ok envelope => relayContent envelope :: net.given
        | .error _ => net.given }
| .handOver now env minor authenticatedPeer envelope =>
  if forged host codec identity net envelope then
    none
  else
    let handled := handleRelayEnvelope host codec settings now net.tables authenticatedPeer envelope
    let told := relayedEvents host env minor authenticatedPeer envelope.origin net.peers handled.2
    some { net with
        handedOver :=
          if net.given.contains (relayContent envelope) then
            relayContent envelope :: net.handedOver
          else
            net.handedOver
        tables := handled.1
        peers := told.1
        events := told.2.map (envelope.payload, ·) ++ net.events }
| .elsewhere sessionIds tables peers =>
  some { net with sessionIds := sessionIds, tables := tables, peers := peers }

/- An envelope is handed over no more often than the origin has given it out. -/
def HandsOverOnce (net : RelayNet) : RelayAction → Prop
| .handOver _ _ _ _ envelope => relayContent envelope ∈ net.given →
    net.handedOver.count (relayContent envelope) < net.given.count (relayContent envelope)
| _ => True

instance (net : RelayNet) (action : RelayAction) : Decidable (HandsOverOnce net action) := by
  unfold HandsOverOnce
  cases action <;> infer_instance

/- The calls that send the payload to the target. -/
def sendsPayload (target : NodeId) (payload : List UInt8) (call : NodeId × Message) : Bool :=
  call.1 == target && (codec.postcard.toAllocvec call.2).toOption == some payload

def carriesPayload (target : NodeId) (payload : List UInt8) (content : RelayContent) : Bool :=
  content.target == target && content.payload == payload

/- The messages of the origin that were read from the payload. -/
def tellsPayload (origin : NodeId) (payload : List UInt8) (entry : List UInt8 × NetworkEvent) :
    Bool :=
  entry.1 == payload && entry.2.isFrom origin

structure RelayInv (payload : List UInt8) (net : RelayNet) : Prop where
  given : net.given.countP (carriesPayload host.node payload) ≤
    net.calls.countP (sendsPayload codec host.node payload)
  handedOver : ∀ content, net.handedOver.count content ≤ net.given.count content
  told : net.events.countP (tellsPayload identity.nodeId payload) ≤
    net.handedOver.countP (carriesPayload host.node payload)

variable {host codec settings identity}

/- An envelope that is sent is addressed and carries what the call says. -/
theorem sendViaRelay_content {hashing : Hashing} {call : RelayCall} {sessionIds : RelaySessionIds}
    {relay target : NodeId} {message : Message} {envelope : RelayEnvelope}
    (hSent : (sendViaRelay hashing codec relay target message identity call sessionIds).2 =
      .ok envelope) :
    envelope.target = target ∧ codec.postcard.toAllocvec message = .ok envelope.payload := by
  unfold sendViaRelay at hSent
  cases hPayload : relayPayload hashing codec relay target message with
  | error error => simp [hPayload] at hSent
  | ok payload =>
    rw [hPayload] at hSent
    simp only [Validation.bind_eq_ok_iff] at hSent
    rcases hSent with ⟨bytes, -, ⟨⟩, -, hEnvelope⟩
    cases hEnvelope
    refine ⟨rfl, ?_⟩
    unfold relayPayload at hPayload
    split_ifs at hPayload
    simp only [Validation.bind_eq_ok_iff] at hPayload
    rcases hPayload with ⟨⟨⟩, -, encoded, hEncoded, hBound⟩
    split_ifs at hBound
    cases hBound
    cases hBytes : codec.postcard.toAllocvec message with
    | error reason => simp [hBytes, Except.mapError] at hEncoded
    | ok bytes => simpa [hBytes, Except.mapError] using hEncoded

theorem RelayInv.step {payload : List UInt8} {net next : RelayNet} {action : RelayAction}
    (hInv : RelayInv host codec identity payload net) (hOnce : HandsOverOnce net action)
    (hStep : relayStep host codec settings identity net action = some next) :
    RelayInv host codec identity payload next := by
  cases action with
  | send call relay target message =>
    cases hStep
    cases hSent : (sendViaRelay host.hashing codec relay target message identity call
      net.sessionIds).2 with
    | error error =>
      refine ⟨?_, ?_, hInv.told⟩
      · rw [List.countP_cons]
        exact hInv.given.trans (Nat.le_add_right _ _)
      · exact hInv.handedOver
    | ok envelope =>
      rcases sendViaRelay_content hSent with ⟨hTarget, hPayload⟩
      refine ⟨?_, ?_, hInv.told⟩
      · rw [List.countP_cons, List.countP_cons]
        have hSame : carriesPayload host.node payload (relayContent envelope) =
          sendsPayload codec host.node payload (target, message) := by
          simp [carriesPayload, sendsPayload, relayContent, hTarget, hPayload, Except.toOption]
        rw [hSame]
        exact Nat.add_le_add_right hInv.given _
      · intro content
        exact (hInv.handedOver content).trans (List.count_le_count_cons)
  | handOver now env minor authenticatedPeer envelope =>
    by_cases hForged : forged host codec identity net envelope = true
    · simp [relayStep, hForged] at hStep
    rw [relayStep, if_neg hForged] at hStep
    cases hStep
    generalize hTold : relayedEvents host env minor authenticatedPeer envelope.origin net.peers
      (handleRelayEnvelope host codec settings now net.tables authenticatedPeer envelope).2 = told
    have hEvents := relayedEvents_from host env minor authenticatedPeer envelope.origin
      identity.nodeId net.peers
      (handleRelayEnvelope host codec settings now net.tables authenticatedPeer envelope).2
    rw [hTold] at hEvents
    -- What is told was read from an envelope that the origin has given out.
    have hGiven : 0 < told.2.countP (·.isFrom identity.nodeId) →
      relayContent envelope ∈ net.given ∧ envelope.target = host.node := by
      intro hSome
      rcases hEvents.2 hSome with ⟨hOrigin, inner, hOpened⟩
      rcases handleRelayEnvelope_opened host codec settings hOpened with ⟨hAuthentic, hTarget⟩
      refine ⟨?_, hTarget⟩
      simpa [forged, hAuthentic, hOrigin, Except.isOk, Except.toBool] using hForged
    have hMore : net.handedOver.countP (carriesPayload host.node payload) ≤
      (if net.given.contains (relayContent envelope) then
        relayContent envelope :: net.handedOver
      else
        net.handedOver).countP (carriesPayload host.node payload) := by
      split_ifs
      · rw [List.countP_cons]
        exact Nat.le_add_right _ _
      · exact Nat.le_refl _
    refine ⟨hInv.given, ?_, ?_⟩
    · intro content
      split_ifs with hHere
      · rw [List.count_cons]
        split_ifs with hContent
        · rw [beq_iff_eq] at hContent
          subst hContent
          exact hOnce (by simpa using hHere)
        · exact hInv.handedOver content
      · exact hInv.handedOver content
    · dsimp only
      rw [List.countP_append, List.countP_map]
      by_cases hPayload : envelope.payload = payload
      · have hSame : (tellsPayload identity.nodeId payload ∘ fun event =>
          (envelope.payload, event)) = (·.isFrom identity.nodeId) := by
          funext event
          simp [tellsPayload, hPayload]
        rw [hSame]
        rcases Nat.eq_zero_or_pos (told.2.countP (·.isFrom identity.nodeId)) with hNone | hSome
        · rw [hNone, Nat.zero_add]
          exact hInv.told.trans hMore
        · rcases hGiven hSome with ⟨hHere, hTarget⟩
          have hCarries : carriesPayload host.node payload (relayContent envelope) = true := by
            simp [carriesPayload, relayContent, hTarget, hPayload]
          rw [if_pos (by simpa using hHere), List.countP_cons_of_pos hCarries]
          have hTold := hInv.told
          omega
      · have hNone : (told.2.countP (tellsPayload identity.nodeId payload ∘ fun event =>
          (envelope.payload, event))) = 0 := by
          simp [List.countP_eq_zero, tellsPayload, hPayload]
        rw [hNone, Nat.zero_add]
        exact hInv.told.trans hMore
  | elsewhere sessionIds tables peers =>
    cases hStep
    exact ⟨hInv.given, hInv.handedOver, hInv.told⟩

/-
  In every run in which no envelope of the origin is handed
  over more often than it was given out, a payload is told no
  more often than it was sent.
-/
theorem relayed_le_sent (host : Host) (codec : RelayCodec) (settings : RelaySettings)
    (identity : Identity) (sessionIds : RelaySessionIds) (tables : RelayTables) (peers : PeerState)
    (payload : List UInt8) (actions : List RelayAction) (net : RelayNet)
    (hOnce : Meets (relayStep host codec settings identity) HandsOverOnce
      ⟨sessionIds, [], [], [], tables, peers, []⟩ actions)
    (hRun : run (relayStep host codec settings identity)
      ⟨sessionIds, [], [], [], tables, peers, []⟩ actions = some net) :
    net.events.countP (tellsPayload identity.nodeId payload) ≤
      net.calls.countP (sendsPayload codec host.node payload) := by
  have hStart : RelayInv host codec identity payload ⟨sessionIds, [], [], [], tables, peers, []⟩ :=
    ⟨Nat.le_refl 0, fun _ => Nat.le_refl 0, Nat.le_refl 0⟩
  have hInv := invariant_of_run (RelayInv host codec identity payload)
    (fun _ _ _ hInv hOnce hStep => hInv.step hOnce hStep) hStart hOnce hRun
  have hSubperm : net.handedOver.Subperm net.given :=
    List.subperm_ext_iff.mpr (fun content _ => hInv.handedOver content)
  exact (hInv.told.trans (hSubperm.countP_le _)).trans hInv.given

end

/- Node 2 sends one answer to node 1 through node 3. -/
def smallCodec : RelayCodec where
  postcard := ⟨fun _ => .ok [7], fun _ => .ok (.pong ⟨7⟩)⟩
  signingBytes := fun _ => .ok []

def smallIdentity : Identity :=
  ⟨⟨2⟩, 2, fun _ => List.replicate 64 0⟩

def sendPong : RelayAction :=
  .send ⟨⟨9⟩, noPeers.register ⟨3⟩ 0 true 6, fun _ => false, fun _ => false, true⟩ ⟨3⟩ ⟨1⟩
    (.pong ⟨7⟩)

def handOverPong : RelayAction :=
  .handOver 100 calmWork 6 ⟨3⟩ ⟨⟨9⟩, ⟨2⟩, 2, ⟨1⟩, [7], List.replicate 64 0⟩

def relaysNothing : RelaySettings := ⟨false, 0, 0⟩

def quietRelay : RelayNet := ⟨[], [], [], [], ⟨∅, ∅⟩, noPeers, []⟩

theorem relayed_le_sent_once : ∃ net,
    run (relayStep smallHost smallCodec relaysNothing smallIdentity) quietRelay
      [sendPong, handOverPong] = some net ∧ net.events.countP (tellsPayload ⟨2⟩ [7]) ≤
      net.calls.countP (sendsPayload smallCodec ⟨1⟩ [7]) :=
  ⟨_, rfl, relayed_le_sent smallHost smallCodec relaysNothing smallIdentity [] ⟨∅, ∅⟩ noPeers [7]
    [sendPong, handOverPong] _ (by decide +kernel) rfl⟩

/- The relay hands over the envelope twice, and the answer is told twice. -/
theorem relayed_twice : ∃ net,
    run (relayStep smallHost smallCodec relaysNothing smallIdentity) quietRelay
      [sendPong, handOverPong, handOverPong] = some net ∧
      net.calls.countP (sendsPayload smallCodec ⟨1⟩ [7]) = 1 ∧
      net.events.countP (tellsPayload ⟨2⟩ [7]) = 2 :=
  ⟨_, rfl, by decide +kernel, by decide +kernel⟩

end IntelligenceNetwork.Network
