import IntelligenceNetwork.Lib.Transition
import IntelligenceNetwork.Network.PeerTable

/-
  The task of a connection.

  Tasks for one peer run side by side, since both ends may
  dial.  A step goes from one await to the next, and what a
  call outside the task answers is part of the action.  Requests
  to the distributed hash table and relay routes do not touch
  the maps of connections and are left out.

  Main declarations:
    * `TaskPhase`
    * `registerTask`
    * `taskStep`
-/

----
-- Tasks
----

namespace IntelligenceNetwork.Network

/- What a task knows once the handshake is over. -/
structure Session where
  peer : PeerRecord
  minor : UInt16
  outbound : Bool
  connectionId : Nat

/- A message that is queued before the first one is read. -/
inductive Greeting where
  | announcement
  | addressUpdate
  | addressObservation
  | keyRotation
  deriving DecidableEq

/- What is left to do for a message that was read. -/
inductive Work where
  | upsertPeer (announcement : SignedAnnouncement)
  | addressUpdate (update : AddressUpdate)
  | keyRotation (rotation : KeyRotation)
  | reply (message : Message)
  | forward (peer : NodeId) (message : Message)

/- The await at which a task is suspended. -/
inductive TaskPhase where
  | handshake (outbound : Bool)
  | inspecting (session : Session)
  | probing (session : Session) (existing : Option (Nat × UInt16))
  | registering (session : Session) (existing : Option (Nat × UInt16)) (stale : Bool)
  | announcing (session : Session)
  | greeting (session : Session) (left : List Greeting)
  | reading (session : Session)
  | working (session : Session) (left : List Work)
  | closing (session : Session)
  | leaving (session : Session)
  | returned (session : Option Session) (result : Except NetworkError Unit)

inductive NetworkEvent where
  | peerConnected (record : PeerRecord)
  | peerDisconnected (peer : NodeId)
  | message (peer : NodeId) (message : Message)
  | protocolError (peer : NodeId) (error : NetworkError)

/- An event, and the connection whose task emitted it. -/
structure Emission where
  connectionId : Nat
  event : NetworkEvent

/-
  What the tasks of a node share.  A connection is closed once
  the transport has a reason for it, and stopped once nothing
  takes messages out of its queue.  The connections that were
  replaced by another one of their peer are remembered for the
  statements about events.
-/
structure NetSystem where
  peers : PeerState
  seenHellos : List (NodeId × Nonce)
  (closed stopped replaced : Finset Nat)
  tasks : Std.TreeMap Nat TaskPhase
  (nextTask connectionSequence : Nat)
  events : List Emission
  eventsOpen : Bool

namespace NetSystem

/- The records of an earlier run of the node are kept. -/
def initial (known : PeerState) : NetSystem where
  peers := known.disconnected
  seenHellos := []
  closed := ∅
  stopped := ∅
  replaced := ∅
  tasks := ∅
  nextTask := 0
  connectionSequence := 0
  events := []
  eventsOpen := true

variable (system : NetSystem)

def setTask (task : Nat) (phase : TaskPhase) : NetSystem :=
  { system with tasks := system.tasks.insert task phase }

/- An event is lost once nobody receives events. -/
def emit (session : Session) (event : NetworkEvent) : NetSystem :=
  if system.eventsOpen then
    { system with events := system.events ++ [⟨session.connectionId, event⟩] }
  else
    system

def tell (session : Session) : Option NetworkEvent → NetSystem
| none => system
| some event => system.emit session event

def finish (task : Nat) (session : Session) (result : Except NetworkError Unit) : NetSystem :=
  system.setTask task (.returned (some session) result)

def close (connectionId : Nat) : NetSystem :=
  { system with closed := insert connectionId system.closed }

def stop (connectionId : Nat) : NetSystem :=
  { system with stopped := insert connectionId system.stopped }

end NetSystem

----
-- The Current Connection of a Peer
----

/- The lower node dials; its connection is the canonical one. -/
def preferredOutbound (host : Host) (session : Session) : Bool :=
  host.node < session.peer.nodeId

def senderOpen (system : NetSystem) (peer : NodeId) : Bool :=
  system.peers.senders[peer]?.any (fun connectionId => connectionId ∉ system.stopped)

def connectionClosed (system : NetSystem) (peer : NodeId) : Bool :=
  system.peers.connections[peer]?.all (fun connectionId => connectionId ∈ system.closed)

section

variable (host : Host) (system : NetSystem) (session : Session)

/- A live connection of the direction both ends prefer. -/
def existingCanonical : Option (Nat × UInt16) :=
  let peer := session.peer.nodeId
  let preferred := preferredOutbound host session
  if !senderOpen system peer || connectionClosed system peer ||
    (system.peers.connectionDirections[peer]?.map Owned.value) != some preferred ||
    session.outbound != preferred then
    none
  else
    system.peers.connectionIds[peer]?.map (fun connectionId =>
      (connectionId, (system.peers.versions[peer]?.map Owned.value).getD 0))

/-
  Whether the new connection takes the place of an open one:
  a dead one, one that did not answer, or one dialled by the
  other end when this one is canonical.
-/
def takesOver (existing : Option (Nat × UInt16)) (stale : Bool) : Bool :=
  let peer := session.peer.nodeId
  let preferred := preferredOutbound host session
  connectionClosed system peer || !senderOpen system peer ||
    (stale && existing.any (fun canonical =>
      system.peers.connectionIds[peer]? == some canonical.1)) ||
    system.peers.connectionDirections[peer]?.any (fun direction =>
      direction.value != preferred && session.outbound == preferred)

end

def refreshRecord (peers : PeerState) (record : PeerRecord) : PeerState :=
  if peers.records[record.nodeId]?.all (fun previous => recordIsFresher previous record) then
    { peers with records := peers.records.insert record.nodeId record }
  else
    peers

section

variable (host : Host) (system : NetSystem) (session : Session) (existing : Option (Nat × UInt16))
variable (stale : Bool)

/- An open connection of the peer has to give way. -/
def displaces : Bool :=
  senderOpen system session.peer.nodeId && takesOver host system session existing stale

/- The table after the old connection has given way. -/
def displace : PeerState :=
  if displaces host system session existing stale then
    system.peers.unregister session.peer.nodeId
  else
    system.peers

end

def roomFor (now : UInt64) (peers : PeerState) (peer : NodeId) : PeerState :=
  if peers.recordsFull peer then peers.expireRecords now else peers

variable (host : Host)

variable (system : NetSystem)

/- The duplicate of an open connection is not registered. -/
def duplicate (session : Session) (existing : Option (Nat × UInt16)) (stale : Bool) : Bool :=
  senderOpen system session.peer.nodeId && !takesOver host system session existing stale

def tooManyConnections (peers : PeerState) : Bool :=
  host.config.maxConnections ≤ peers.senders.size

/- The connection becomes the current one of its peer. -/
def makeCurrent (session : Session) (room : PeerState) : NetSystem :=
  let peer := session.peer.nodeId
  { system with
    peers := (refreshRecord room session.peer).register peer
      session.connectionId session.outbound session.minor
    replaced :=
      match system.peers.connectionIds[peer]? with
      | none => system.replaced
      | some old => insert old system.replaced }

/- The connection that was taken out of the table is closed. -/
def closeDisplaced (system next : NetSystem) (session : Session) (existing : Option (Nat × UInt16))
    (stale : Bool) : NetSystem :=
  match system.peers.connections[session.peer.nodeId]? with
  | none => next
  | some old => if displaces host system session existing stale then next.close old else next

def registerTask (env : CallEnv) (system : NetSystem) (task : Nat) (session : Session)
    (existing : Option (Nat × UInt16)) (stale : Bool) : NetSystem :=
  let removed := displace host system session existing stale
  if duplicate host system session existing stale then
    (NetSystem.close { system with peers := refreshRecord removed session.peer }
      session.connectionId).finish task session (.ok ())
  else if tooManyConnections host removed then
    (NetSystem.close { system with peers := removed } session.connectionId).finish task session
      (.error .peerTableFull)
  else
    let room := roomFor env.now removed session.peer.nodeId
    if room.recordsFull session.peer.nodeId then
      (NetSystem.close { system with peers := room } session.connectionId).finish task session
        (.error .peerTableFull)
    else
      let current := makeCurrent system session room
      if env.saved then
        (closeDisplaced host system current session existing
          stale).setTask task (.announcing session)
      else
        -- The queue is dropped with the task.
        (current.stop session.connectionId).finish task session (.error .storage)

----
-- Messages
----

/- What the calls for one greeting or one message answer. -/
structure WorkEnv where
  call : CallEnv
  signed : Except String Unit
  queued : Bool

def greetings (minor : UInt16) (rotated : Bool) : List Greeting :=
  if minor ≥ 1 then
    [.announcement, .addressUpdate, .addressObservation] ++ (if rotated then [.keyRotation] else [])
  else
    [.announcement]

def queue (env : WorkEnv) : Except NetworkError Unit :=
  if env.queued then .ok () else .error .notConnected

/- An observation that cannot be signed is left out. -/
def greet (env : WorkEnv) : Greeting → Except NetworkError Unit
| .keyRotation => queue env
| .addressObservation =>
  match env.signed with
  | .error _ => .ok ()
  | .ok () => queue env
| .announcement | .addressUpdate =>
  match env.signed with
  | .error reason => .error (.peerProtocol reason)
  | .ok () => queue env

/- What the reader gets next. -/
inductive Incoming where
  | failed (error : NetworkError)
  | direct (message : Message)
  | relayed (origin : NodeId) (outcome : Except NetworkError (Option Message))

/-
  The work for a message, or none to leave the loop.  Only
  verified announcements of other nodes are learned.
-/
def dispatch (minor : UInt16) (messagePeer : NodeId) (message : Message) : Option (List Work) :=
  let learned (announcement : SignedAnnouncement) : Bool := verifyAnnouncement host announcement &&
    announcement.record.nodeId != host.node
  match message with
  | .dhtRequest _ | .dhtResponse _ =>
    if minor ≥ 2 then some []
    else some [.forward messagePeer message]
  | .peerExchange exchange =>
    some ((exchange.peers.filter learned).map .upsertPeer ++ [.forward messagePeer message])
  | .announcement announcement =>
    some (([announcement].filter learned).map .upsertPeer ++ [.forward messagePeer message])
  | .addressUpdate update => some [.addressUpdate update, .forward messagePeer message]
  | .keyRotation rotation =>
    some (([rotation].filter (fun rotation =>
      rotation.newNodeId == messagePeer)).map .keyRotation ++ [.forward messagePeer message])
  | .ping ping => some [.reply (.pong ping), .forward messagePeer message]
  | .jobRequest request =>
    if request.origin ≠ messagePeer then
      some [.reply (.error ⟨.unauthorized, "job origin does not match authenticated peer"⟩)]
    else
      some [.forward messagePeer message]
  | .goodbye _ => none
  | _ => some [.forward messagePeer message]

/- What one piece of work does to the peer table. -/
def runWork (env : WorkEnv) (peers : PeerState) : Work → TableResult
| .upsertPeer announcement => upsertPeer host env.call peers announcement
| .addressUpdate update =>
  if verifyAddressUpdate host peers update then
    upsertAddressUpdate host env.call peers update
  else
    (peers, .ok ())
| .keyRotation rotation =>
  if verifyKeyRotation host env.call.now rotation then
    upsertKeyRotation env.call peers rotation
  else
    (peers, .ok ())
| .reply _ => (peers, queue env)
| .forward _ _ => (peers, .ok ())

def Work.emitted : Work → Option NetworkEvent
| .forward peer message => some (.message peer message)
| _ => none

----
-- Steps
----

/- The first message of the peer, and the exchange after it. -/
structure HelloEnv where
  now : UInt64
  first : Except NetworkError Message
  exchanged : Except NetworkError Unit

inductive TaskAction where
  | accept (outbound : Bool)
  | hello (task : Nat) (env : HelloEnv)
  | inspect (task : Nat)
  | probe (task : Nat) (answered : Bool)
  | register (task : Nat) (env : CallEnv)
  | announce (task : Nat) (rotated : Bool)
  | greet (task : Nat) (env : WorkEnv)
  | read (task : Nat) (incoming : Incoming)
  | work (task : Nat) (env : WorkEnv)
  | cleanup (task : Nat)
  | leave (task : Nat)
  | closeConnection (connectionId : Nat)
  | stopWriter (connectionId : Nat)
  | reconnect (peer : NodeId)
  | expire (now : UInt64)
  | closeEvents

def helloTask (env : HelloEnv) (system : NetSystem) (task : Nat) (outbound : Bool) : NetSystem :=
  match env.first with
  | .error error => system.setTask task (.returned none (.error error))
  | .ok (.hello hello) =>
    let verified := verifyHello host env.now system.seenHellos hello
    let seen := { system with seenHellos := verified.2 }
    match verified.1, env.exchanged with
    | .error error, _ | .ok _, .error error => seen.setTask task (.returned none (.error error))
    | .ok minor, .ok () =>
      NetSystem.setTask { seen with connectionSequence := system.connectionSequence + 1 } task
        (.inspecting ⟨hello.record, minor, outbound, system.connectionSequence⟩)
  | .ok _ =>
    system.setTask task (.returned none (.error (.peerProtocol "first message was not hello")))

def greetTask (env : WorkEnv) (system : NetSystem) (task : Nat) (session : Session)
    (greeting : Greeting) (left : List Greeting) : NetSystem :=
  match greet env greeting with
  | .error error => (system.stop session.connectionId).finish task session (.error error)
  | .ok () =>
    system.setTask task (if left.isEmpty then .reading session
      else .greeting session left)

section

variable (task : Nat) (session : Session)

/- The work for a message, or the end of the loop. -/
def startWork : Option (List Work) → NetSystem
| none => system.setTask task (.closing session)
| some [] => system.setTask task (.reading session)
| some left => system.setTask task (.working session left)

def readTask : Incoming → NetSystem
| .failed error =>
  (system.emit session (.protocolError session.peer.nodeId error)).setTask task (.closing session)
| .direct message =>
  startWork system task session (dispatch host session.minor session.peer.nodeId message)
| .relayed _ (.error error) =>
  (system.emit session (.protocolError session.peer.nodeId error)).setTask task (.closing session)
| .relayed _ (.ok none) => system.setTask task (.reading session)
| .relayed origin (.ok (some message)) =>
  startWork system task session (dispatch host session.minor origin message)

/- A call that fails ends the task where it stands. -/
def workTask (env : WorkEnv) (system : NetSystem) (task : Nat) (session : Session) (item : Work)
    (left : List Work) : NetSystem :=
  let done := runWork host env system.peers item
  let learned := { system with peers := done.1 }
  match done.2 with
  | .error error => learned.finish task session (.error error)
  | .ok () =>
    (learned.tell session item.emitted).setTask task (if left.isEmpty then .reading session
      else .working session left)

/- Only the current connection of a peer is taken out. -/
def cleanupTask : NetSystem :=
  let stopped := system.stop session.connectionId
  if system.peers.connectionIds[session.peer.nodeId]? = some session.connectionId then
    NetSystem.setTask { stopped with peers := system.peers.unregister session.peer.nodeId }
      task (.leaving session)
  else
    stopped.finish task session (.ok ())

end

/- What a task does when it is woken from an await. -/
def phaseStep (task : Nat) : TaskPhase → TaskAction → Option NetSystem
| .handshake outbound, .hello _ env => some (helloTask host env system task outbound)
| .inspecting session, .inspect _ =>
  some (system.setTask task (.probing session (existingCanonical host system session)))
| .probing session existing, .probe _ answered =>
  some (system.setTask task (.registering session existing (existing.any (fun canonical =>
        decide (canonical.2 ≥ 2)) && !answered)))
| .registering session existing stale, .register _ env =>
  some (registerTask host env system task session existing stale)
| .announcing session, .announce _ rotated =>
  some ((system.emit session (.peerConnected session.peer)).setTask task
      (.greeting session (greetings session.minor rotated)))
| .greeting session (greeting :: left), .greet _ env =>
  some (greetTask env system task session greeting left)
| .reading session, .read _ incoming => some (readTask host system task session incoming)
| .working session (item :: left), .work _ env =>
  some (workTask host env system task session item left)
| .closing session, .cleanup _ => some (cleanupTask system task session)
| .leaving session, .leave _ =>
  some ((system.emit session (.peerDisconnected session.peer.nodeId)).finish task session (.ok ()))
| _, _ => none

/- The task that an action wakes. -/
def TaskAction.task : TaskAction → Option Nat
| .hello task _ | .inspect task | .probe task _ | .register task _ | .announce task _
| .greet task _ | .read task _ | .work task _ | .cleanup task | .leave task => some task
| _ => none

/-
  A peer that is to be dialled again loses its connection.
  The transport is closed if the peer has a record.
-/
def reconnectPeer (peer : NodeId) : NetSystem :=
  let removed := { system with peers := system.peers.unregister peer }
  match system.peers.connections[peer]? with
  | none => removed
  | some connectionId =>
    if system.peers.records.contains peer then removed.close connectionId else removed

/- What happens around the tasks. -/
def outerStep : TaskAction → Option NetSystem
| .accept outbound =>
  some { system with
      tasks := system.tasks.insert system.nextTask (.handshake outbound)
      nextTask := system.nextTask + 1 }
| .closeConnection connectionId => some (system.close connectionId)
| .stopWriter connectionId => some (system.stop connectionId)
| .reconnect peer => some (reconnectPeer system peer)
| .expire now =>
  some { system with
      peers :=
        let expired := system.peers.expireRecords now
        { expired with
          announcements := expired.announcements.filter (fun node announcement =>
                decide (announcement.record.expiresAt ≥ now) && expired.records.contains node) } }
| .closeEvents => some { system with eventsOpen := false }
| _ => none

def taskStep (action : TaskAction) : Option NetSystem :=
  match action.task with
  | none => outerStep system action
  | some task =>
    match system.tasks[task]? with
    | none => none
    | some phase => phaseStep host system task phase action

end IntelligenceNetwork.Network
