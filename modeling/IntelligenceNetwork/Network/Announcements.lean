import IntelligenceNetwork.Network.ConnectionEvents

/-
  What peers say of addresses and keys.

  What one peer says may stand in the way of another, and what
  a peer said earlier in the way of what it says later.

  Main declarations:
    * `dials_iff`
    * `rotations_settle_iff`
    * `update_taken`
-/

----
-- Dialling
----

namespace IntelligenceNetwork.Network

open Transition OrderedMap

structure AddressBackoff where
  failures : UInt32
  nextAttempt : UInt64

/-
  What is read to dial besides the table of peers.  Dials and
  failures are kept under the text of the parsed address.
-/
structure Dialer where
  (bootstrap relayAddresses : List String)
  connecting : Finset String
  addressBackoff : Std.TreeMap String AddressBackoff
  text : SocketAddr → String
  connectionOpen : Nat → Bool
  senderOpen : Nat → Bool

/- The dials in progress after a call, and the one it started. -/
structure Dialled where
  connecting : Finset String
  dial : Option SocketAddr
  result : Except NetworkError Unit

section

variable (host : Host) (dialer : Dialer) (now : UInt64) (peers : PeerState)

def openTo (node : NodeId) : Bool :=
  peers.connections[node]?.any dialer.connectionOpen && peers.senders[node]?.any dialer.senderOpen

def connectAddress (address : String) : Dialled :=
  match host.parse address with
  | none =>
    ⟨dialer.connecting, none,
      .error (.invalidConfig "invalid peer address: invalid socket address syntax")⟩
  | some parsed =>
    if !(dialer.bootstrap.contains address || dialer.relayAddresses.contains address) &&
      !addressAllowed host.config parsed .learned then
      ⟨dialer.connecting, none,
        .error (.invalidConfig "peer address is not allowed by local address policy")⟩
    else if peers.records.toList.any (fun entry =>
      entry.2.addresses.contains address && openTo dialer peers entry.1) then
      ⟨dialer.connecting, none, .ok ()⟩
    else if dialer.text parsed ∈ dialer.connecting then
      ⟨dialer.connecting, none, .ok ()⟩
    else if dialer.addressBackoff[dialer.text parsed]?.any (·.nextAttempt > now) then
      -- The dial is entered before the delay is looked up, and taken out again.
      ⟨dialer.connecting, none, .ok ()⟩
    else
      ⟨insert (dialer.text parsed) dialer.connecting, some parsed, .ok ()⟩

/-
  An allowed address that is not being dialled or delayed is
  dialled exactly if no peer with an open connection lists it.
-/
theorem dials_iff (address : String) (parsed : SocketAddr)
    (hParse : host.parse address = some parsed)
    (hAllowed : addressAllowed host.config parsed .learned = true)
    (hIdle : dialer.text parsed ∉ dialer.connecting)
    (hRested : ∀ backoff, dialer.addressBackoff[dialer.text parsed]? = some backoff →
      backoff.nextAttempt ≤ now) :
    (connectAddress host dialer now peers address).dial = some parsed ↔
      ∀ (node : NodeId) (record : PeerRecord), peers.records[node]? = some record →
        address ∈ record.addresses → openTo dialer peers node = false := by
  have hDelay : ¬ dialer.addressBackoff[dialer.text parsed]?.any (·.nextAttempt > now) = true := by
    rw [Option.any_eq_true]
    rintro ⟨backoff, hBackoff, hLater⟩
    exact UInt64.not_lt.mpr (hRested backoff hBackoff) (by simpa using hLater)
  have hListed : peers.records.toList.any (fun entry =>
    entry.2.addresses.contains address && openTo dialer peers entry.1) = true ↔
    ∃ (node : NodeId) (record : PeerRecord), peers.records[node]? = some record ∧
      address ∈ record.addresses ∧ openTo dialer peers node = true := by
    simp [List.any_eq_true, Std.TreeMap.mem_toList_iff_getElem?_eq_some]
  unfold connectAddress
  rw [hParse]
  dsimp only
  rw [hAllowed, Bool.not_true, Bool.and_false, if_neg Bool.false_ne_true]
  split_ifs with hKnown
  · refine iff_of_false nofun ?_
    intro hNone
    rcases hListed.mp hKnown with ⟨node, record, hRecord, hAddress, hOpen⟩
    rw [hNone node record hRecord hAddress] at hOpen
    cases hOpen
  · refine iff_of_true rfl ?_
    intro node record hRecord hAddress
    by_contra hOpen
    exact hKnown (hListed.mpr ⟨node, record, hRecord, hAddress, by simpa using hOpen⟩)

end

def idleDialer : Dialer :=
  ⟨[], [], ∅, ∅, fun _ => "v", fun _ => true, fun _ => true⟩

/- Nodes 2 and 3 have announced themselves, and node 2 is connected. -/
def twoKnown : PeerState :=
  let first := (upsertPeer smallHost ⟨100, true⟩ noPeers ⟨smallRecord 700, List.replicate 64 0⟩).1
  let second := (upsertPeer smallHost ⟨100, true⟩ first
    ⟨⟨⟨3⟩, 3, ["v"], [], 100, 700, none⟩, List.replicate 64 0⟩).1
  second.register ⟨2⟩ 0 true 6

/- The peer with the open connection does not list the address. -/
theorem dials_twoKnown : openTo idleDialer twoKnown ⟨2⟩ = true ∧
    (connectAddress smallHost idleDialer 100 twoKnown "v").dial =
      some ⟨.v4 0x0a000002#32, 4000⟩ := by
  have hNone : twoKnown.records.toList.all (fun entry =>
      !entry.2.addresses.contains "v" || !openTo idleDialer twoKnown entry.1) = true := by
    decide +kernel
  rw [List.all_eq_true] at hNone
  refine ⟨by decide +kernel, (dials_iff smallHost idleDialer 100 twoKnown "v" _ rfl (by decide)
    (by decide) (by simp [idleDialer])).mpr ?_⟩
  intro node record hRecord hAddress
  have hEntry := hNone (node, record) (Std.TreeMap.mem_toList_iff_getElem?_eq_some.mpr hRecord)
  simpa [hAddress] using hEntry

def addressAt (address : String) : AddressRecord :=
  ⟨address, .quicUdp, .localAddress, 700, 1, none⟩

def smallUpdate (sequence : UInt64) (addresses : List AddressRecord) : AddressUpdate :=
  ⟨⟨2⟩, sequence, addresses, List.replicate 64 0⟩

/- Node 2 says that it listens there too, and node 3 is not dialled any more. -/
theorem not_dialled_listed :
    (connectAddress smallHost idleDialer 100 twoKnown "v").dial.isSome = true ∧
      verifyAddressUpdate smallHost twoKnown (smallUpdate 1 [addressAt "v"]) = true ∧
      (connectAddress smallHost idleDialer 100
        (upsertAddressUpdate smallHost ⟨100, true⟩ twoKnown (smallUpdate 1 [addressAt "v"])).1
        "v").dial = none := by
  decide +kernel

----
-- Key Rotations
----

/- The rotations come in, each at its own time. -/
def hearRotations (host : Host) (env : KeyRotation → WorkEnv) (peers : PeerState)
    (order : List KeyRotation) : PeerState :=
  order.foldl (fun peers rotation => (runWork host (env rotation) peers (.keyRotation rotation)).1)
    peers

/- The table has nothing of the old identity, and nothing in the place of the new one. -/
def unheardOf (peers : PeerState) (rotation : KeyRotation) : Bool :=
  !peers.rotations.values.any (·.oldNodeId == rotation.oldNodeId) &&
    !peers.rotations.contains rotation.newNodeId

/- A rotation that the table has no reason to refuse. -/
structure Fresh (host : Host) (known : PeerState) (now : UInt64) (rotation : KeyRotation) :
    Prop where
  valid : verifyKeyRotation host now rotation = true
  agreed : rotationContradicts known rotation = false
  unheard : unheardOf known rotation = true

/- The table is as it was but for what was heard, and knows of the newest. -/
structure Heard (known peers : PeerState) (heard : List KeyRotation) : Prop where
  records : peers.records = known.records
  own : ∀ (node : NodeId) (rotation : KeyRotation), peers.rotations[node]? = some rotation →
    known.rotations[node]? = some rotation ∨ (rotation ∈ heard ∧ rotation.newNodeId = node)
  newest : ∀ rotation ∈ heard, ∃ other ∈ heard,
    peers.rotations[other.newNodeId]? = some other ∧ rotation.sequence ≤ other.sequence

section

variable {host : Host} {known peers : PeerState} {heard : List KeyRotation}

theorem Heard.step {env : WorkEnv} {rotation : KeyRotation} (hHeard : Heard known peers heard)
    (hFresh : Fresh host known env.call.now rotation) :
    Heard known (runWork host env peers (.keyRotation rotation)).1 (rotation :: heard) ∧
      ∀ node ∈ peers.rotations,
        node ∈ (runWork host env peers (.keyRotation rotation)).1.rotations := by
  -- A rotation that is not taken is older than one in the table.
  have hMore : ∀ (node : NodeId) (other : KeyRotation), peers.rotations[node]? = some other →
    known.rotations[node]? = some other ∨ (other ∈ rotation :: heard ∧ other.newNodeId = node) := by
    intro node other hOther
    exact (hHeard.own node other hOther).imp_right (And.imp_left (List.mem_cons_of_mem _))
  have hStale : ∀ (node : NodeId) (other : KeyRotation), peers.rotations[node]? = some other →
    known.rotations[node]? ≠ some other → rotation.sequence ≤ other.sequence →
    Heard known peers (rotation :: heard) := by
    intro node other hEntry hNew hOlder
    rcases hHeard.own node other hEntry with hOld | ⟨hOther, rfl⟩
    · exact absurd hOld hNew
    · refine ⟨hHeard.records, hMore, ?_⟩
      intro before hBefore
      rcases List.mem_cons.mp hBefore with rfl | hOld
      · exact ⟨other, List.mem_cons_of_mem _ hOther, hEntry, hOlder⟩
      · rcases hHeard.newest before hOld with ⟨newest, hNewest, hLater⟩
        exact ⟨newest, List.mem_cons_of_mem _ hNewest, hLater⟩
  have hUnheard := hFresh.unheard
  simp only [unheardOf, Bool.and_eq_true, Bool.not_eq_true'] at hUnheard
  have hSame : rotationContradicts peers rotation = false := by
    rw [rotationContradicts, hHeard.records]
    exact hFresh.agreed
  rw [runWork, if_pos hFresh.valid, upsertKeyRotation, if_neg (by simp [hSame])]
  split_ifs with hOther hOwn
  · rcases List.any_eq_true.mp hOther with ⟨other, hValue, hNewer⟩
    rcases mem_values_iff.mp hValue with ⟨node, hEntry⟩
    simp only [Bool.and_eq_true, beq_iff_eq, decide_eq_true_eq] at hNewer
    refine ⟨hStale node other hEntry ?_ hNewer.1.2, fun _ => id⟩
    intro hBefore
    have hOld := List.any_eq_false.mp hUnheard.1 other (mem_values_iff.mpr ⟨_, hBefore⟩)
    exact hOld (by simpa using hNewer.1.1)
  · rcases (Option.any_eq_true _ _).mp hOwn with ⟨other, hEntry, hNewer⟩
    refine ⟨hStale _ other hEntry ?_ (by simpa using hNewer), fun _ => id⟩
    intro hBefore
    simp [Std.TreeMap.contains_eq_isSome_getElem?, hBefore] at hUnheard
  · refine ⟨⟨hHeard.records, ?_, ?_⟩, ?_⟩
    · intro node other hEntry
      rcases getElem?_of_insert hEntry with ⟨hNode, rfl⟩ | hEntry
      · exact Or.inr ⟨List.mem_cons_self, hNode⟩
      · exact hMore node other hEntry
    · have hHere : (peers.rotations.insert rotation.newNodeId rotation)[rotation.newNodeId]? =
        some rotation :=
        Std.TreeMap.getElem?_insert_self
      intro other hOther
      rcases List.mem_cons.mp hOther with rfl | hOld
      · exact ⟨other, List.mem_cons_self, hHere, UInt64.le_refl _⟩
      · rcases hHeard.newest other hOld with ⟨newest, hHeardOf, hEntry, hNewest⟩
        by_cases hNode : rotation.newNodeId = newest.newNodeId
        · -- The newest so far is the one that gives way.
          refine ⟨rotation, List.mem_cons_self, hHere, ?_⟩
          have hLater : ¬ newest.sequence ≥ rotation.sequence := by
            intro hNewer
            refine hOwn ((Option.any_eq_true _ _).mpr ⟨newest, hNode ▸ hEntry, ?_⟩)
            simpa using hNewer
          exact UInt64.le_trans hNewest (UInt64.le_of_lt (UInt64.not_le.mp hLater))
        · exact ⟨newest, List.mem_cons_of_mem _ hHeardOf,
            getElem?_insert.trans ((if_neg hNode).trans hEntry), hNewest⟩
    · intro node hNode
      exact Std.TreeMap.mem_insert.mpr (Or.inr hNode)

theorem Heard.run {env : KeyRotation → WorkEnv} {order : List KeyRotation}
    (hHeard : Heard known peers heard)
    (hFresh : ∀ rotation ∈ order, Fresh host known (env rotation).call.now rotation) :
    Heard known (hearRotations host env peers order) (order.reverse ++ heard) ∧
      ∀ node ∈ peers.rotations, node ∈ (hearRotations host env peers order).rotations := by
  induction order generalizing peers heard with
  | nil => exact ⟨hHeard, fun _ => id⟩
  | cons rotation order ih =>
    rw [List.forall_mem_cons] at hFresh
    rcases hHeard.step hFresh.1 with ⟨hNext, hKept⟩
    rcases ih hNext hFresh.2 with ⟨hFinal, hLast⟩
    refine ⟨?_, fun node hNode => hLast node (hKept node hNode)⟩
    simpa [hearRotations] using hFinal

end

/- The counter of the sender, and the table of a peer that stays up. -/
structure Link where
  sequence : UInt64
  peers : PeerState

/- An update that is signed may reach the peer or not, and so may what others say. -/
inductive LinkAction where
  | restart
  | miss
  | deliver (env : CallEnv) (addresses : List AddressRecord)
  | other (env : WorkEnv) (item : Work)

def Work.updates (node : NodeId) : Work → Bool
| .addressUpdate update => update.nodeId == node
| _ => false

def signAddressUpdate (node : NodeId) (sign : UInt64 → List AddressRecord → List UInt8)
    (addresses : List AddressRecord) (sequence : UInt64) : AddressUpdate :=
  ⟨node, sequence, addresses, sign sequence addresses⟩

/- The allowed addresses of an update that have not expired. -/
def usableAddresses (host : Host) (now : UInt64) (addresses : List AddressRecord) : List String :=
  dedupeAddresses ((addresses.filter (fun address => address.expiresAt ≥ now)).filterMap
    (fun address => (host.parse address.address).bind (fun parsed =>
      if addressAllowed host.config parsed .learned then some address.address else none)))

section

variable (host : Host) (node : NodeId) (sign : UInt64 → List AddressRecord → List UInt8)

def linkStep (link : Link) : LinkAction → Option Link
| .restart => some { link with sequence := 1 }
| .miss => some { link with sequence := link.sequence + 1 }
| .deliver env addresses =>
  some ⟨link.sequence + 1, (upsertAddressUpdate host env link.peers
    (signAddressUpdate node sign addresses link.sequence)).1⟩
| .other env item =>
  if item.updates node then
    none
  else
    some { link with peers := (runWork host env link.peers item).1 }

/- The sender does not restart once the peer has an update, or use up its numbers. -/
def KeepsCounting (link : Link) : LinkAction → Prop
| .restart => link.peers.addressUpdates.contains node = false
| .other _ _ => True
| _ => link.sequence < link.sequence + 1

instance (link : Link) (action : LinkAction) : Decidable (KeepsCounting node link action) := by
  unfold KeepsCounting
  cases action <;> infer_instance

/- Every update in the table was signed under a lower number. -/
def Counted (link : Link) : Prop :=
  ∀ stored, link.peers.addressUpdates[node]? = some stored → stored.sequence < link.sequence

variable {host node sign} {link next : Link}

/- Nothing else changes the update of the sender. -/
theorem addressUpdates_runWork {env : WorkEnv} {peers : PeerState} {item : Work}
    (hOther : item.updates node = false) :
    (runWork host env peers item).1.addressUpdates[node]? = peers.addressUpdates[node]? := by
  cases item with
  | upsertPeer announcement =>
    unfold runWork upsertPeer insertPeer makeRoom
    dsimp only
    split
    · rfl
    · split
      · rfl
      · split_ifs <;> rfl
  | addressUpdate update =>
    unfold runWork upsertAddressUpdate
    dsimp only
    split_ifs
    · rfl
    · refine getElem?_insert.trans (if_neg ?_)
      simpa [Work.updates] using hOther
    · rfl
  | keyRotation rotation =>
    unfold runWork upsertKeyRotation
    dsimp only
    split_ifs <;> rfl
  | reply message | forward peer message => rfl

theorem Counted.taken (hCounted : Counted node link) (env : CallEnv)
    (addresses : List AddressRecord)
    (hStep : linkStep host node sign link (.deliver env addresses) = some next) :
    next.peers.addressUpdates[node]? = some (signAddressUpdate node sign addresses link.sequence) ∧
      next.peers.records[node]? = link.peers.records[node]?.map (fun record =>
        { record with addresses := usableAddresses host env.now addresses }) := by
  cases hStep
  unfold upsertAddressUpdate
  rw [if_neg]
  · refine ⟨getElem?_insert.trans (if_pos rfl), ?_⟩
    dsimp only [persisted, signAddressUpdate]
    cases hRecord : link.peers.records[node]? with
    | none => exact hRecord
    | some record => exact getElem?_insert.trans (if_pos rfl)
  · rw [Option.any_eq_true]
    rintro ⟨stored, hStored, hOlder⟩
    exact UInt64.not_le.mpr (hCounted stored hStored) (by simpa [signAddressUpdate] using hOlder)

theorem Counted.step {action : LinkAction} (hCounted : Counted node link)
    (hCounts : KeepsCounting node link action)
    (hStep : linkStep host node sign link action = some next) : Counted node next := by
  intro stored hStored
  cases action with
  | restart =>
    cases hStep
    simp [KeepsCounting, Std.TreeMap.contains_eq_isSome_getElem?, hStored] at hCounts
  | miss =>
    cases hStep
    exact UInt64.lt_trans (hCounted stored hStored) hCounts
  | deliver env addresses =>
    rw [(hCounted.taken env addresses hStep).1] at hStored
    cases hStored
    cases hStep
    exact hCounts
  | other env item =>
    rw [linkStep] at hStep
    split_ifs at hStep with hOwn
    cases hStep
    rw [addressUpdates_runWork (by simpa using hOwn)] at hStored
    exact hCounted stored hStored

end

/-
  In every run in which the sender does not restart once the
  peer has an update of it, the peer takes each update, and its
  record of the sender has the addresses of the update.
-/
theorem update_taken (host : Host) (node : NodeId)
    (sign : UInt64 → List AddressRecord → List UInt8) (known : PeerState)
    (actions : List LinkAction) (link : Link) (env : CallEnv) (addresses : List AddressRecord)
    (hNone : known.addressUpdates[node]? = none)
    (hCounts : Meets (linkStep host node sign) (KeepsCounting node) ⟨1, known⟩ actions)
    (hRun : run (linkStep host node sign) ⟨1, known⟩ actions = some link) :
    ∃ next, linkStep host node sign link (.deliver env addresses) = some next ∧
      next.peers.addressUpdates[node]? =
        some (signAddressUpdate node sign addresses link.sequence) ∧
      next.peers.records[node]? = link.peers.records[node]?.map (fun record =>
        { record with addresses := usableAddresses host env.now addresses }) := by
  have hStart : Counted node ⟨1, known⟩ := by
    intro stored hStored
    simp [hNone] at hStored
  have hCounted : Counted node link := invariant_of_run (Counted node)
    (fun _ _ _ hCounted hCounts hStep => hCounted.step hCounts hStep) hStart hCounts hRun
  exact ⟨_, rfl, hCounted.taken env addresses rfl⟩

theorem update_taken_later : ∃ link next,
    run (linkStep smallHost ⟨2⟩ (fun _ _ => [])) ⟨1, twoKnown⟩
      [.deliver ⟨100, true⟩ [addressAt "v"], .miss] = some link ∧
      linkStep smallHost ⟨2⟩ (fun _ _ => []) link
        (.deliver ⟨100, true⟩ [addressAt "w"]) = some next ∧
      next.peers.addressUpdates[(⟨2⟩ : NodeId)]?.map (·.sequence) = some 3 := by
  refine ⟨_, _, rfl, rfl, ?_⟩
  rcases update_taken smallHost ⟨2⟩ (fun _ _ => []) twoKnown
    [.deliver ⟨100, true⟩ [addressAt "v"], .miss] _ ⟨100, true⟩ [addressAt "w"]
    (by decide +kernel) (by decide +kernel) rfl with ⟨next, hNext, _, -⟩
  cases hNext
  rfl

/- After a restart the update of a new address has an old number. -/
theorem update_lost_restart : ∃ link next,
    run (linkStep smallHost ⟨2⟩ (fun _ _ => [])) ⟨1, twoKnown⟩
      [.deliver ⟨100, true⟩ [addressAt "v"], .restart] = some link ∧
      linkStep smallHost ⟨2⟩ (fun _ _ => []) link
        (.deliver ⟨100, true⟩ [addressAt "w"]) = some next ∧
      next.peers.records[(⟨2⟩ : NodeId)]?.map (·.addresses) = some ["v"] :=
  ⟨_, _, rfl, rfl, by decide +kernel⟩

end IntelligenceNetwork.Network
