import IntelligenceNetwork.Network.ConnectionTask

/-
  What a connection leaves in the peer table.

  An entry of the table belongs to a task that is still
  running, as long as no call fails between the registration
  of a connection and its cleanup.

  Main declarations:
    * `ConnInv`
    * `CallSucceeds`
    * `PhaseEffect`
-/

----
-- Whose Entries There Are
----

namespace IntelligenceNetwork.Network

open OrderedMap

variable {peers : PeerState} {phase after before : TaskPhase} {host : Host}
variable {next system : NetSystem} {task : Nat} {env : WorkEnv} {greeting : Greeting} {item : Work}
variable {event : NetworkEvent} {action : TaskAction} {outbound : Bool}

namespace TaskPhase

def session : TaskPhase → Option Session
| .handshake _ => none
| .inspecting session | .probing session _ | .registering session _ _ | .announcing session
| .greeting session _ | .reading session | .working session _ | .closing session
| .leaving session => some session
| .returned session _ => session

/- The session, between registration and cleanup. -/
def registered : TaskPhase → Option Session
| .announcing session | .greeting session _ | .reading session | .working session _
| .closing session => some session
| _ => none

/- The task may have reported its peer as connected. -/
def announced : TaskPhase → Bool
| .greeting _ _ | .reading _ | .working _ _ | .closing _ | .leaving _ | .returned _ _ => true
| _ => false

theorem session_of_registered {session : Session} (hRegistered : phase.registered = some session) :
    phase.session = some session := by
  cases phase <;> first | exact hRegistered | cases hRegistered

end TaskPhase

/- The five maps name the same connection for every peer. -/
structure Agrees (peers : PeerState) : Prop where
  senders : ∀ peer : NodeId, peers.senders[peer]? = peers.connectionIds[peer]?
  connections : ∀ peer : NodeId, peers.connections[peer]? = peers.connectionIds[peer]?
  directions : ∀ peer : NodeId, peers.connectionDirections[peer]?.map Owned.connectionId =
    peers.connectionIds[peer]?
  versions : ∀ peer : NodeId, peers.versions[peer]?.map Owned.connectionId =
    peers.connectionIds[peer]?

/- No entry of the five maps belongs to the connection. -/
structure NoEntries (peers : PeerState) (connectionId : Nat) : Prop where
  senders : ∀ peer : NodeId, peers.senders[peer]? ≠ some connectionId
  connections : ∀ peer : NodeId, peers.connections[peer]? ≠ some connectionId
  connectionIds : ∀ peer : NodeId, peers.connectionIds[peer]? ≠ some connectionId
  directions : ∀ peer : NodeId, peers.connectionDirections[peer]?.map Owned.connectionId ≠
    some connectionId
  versions : ∀ peer : NodeId, peers.versions[peer]?.map Owned.connectionId ≠ some connectionId

namespace Agrees

theorem disconnected (known : PeerState) : Agrees known.disconnected := by
  constructor <;> intro peer <;> simp [PeerState.disconnected]

variable (hAgrees : Agrees peers)
include hAgrees

theorem noEntries {connectionId : Nat}
    (hNone : ∀ peer : NodeId, peers.connectionIds[peer]? ≠ some connectionId) :
    NoEntries peers connectionId := by
  constructor <;> intro peer
  all_goals simpa only [hAgrees.senders, hAgrees.connections, hAgrees.directions,
    hAgrees.versions] using hNone peer

theorem of_sameConnections {next : PeerState} (hSame : SameConnections peers next) :
    Agrees next := by
  constructor <;> intro peer
  all_goals simp only [hSame.senders, hSame.connections, hSame.connectionIds, hSame.directions,
    hSame.versions, hAgrees.senders, hAgrees.connections, hAgrees.directions, hAgrees.versions]

theorem unregister (peer : NodeId) : Agrees (peers.unregister peer) := by
  constructor <;> intro other
  all_goals simp only [PeerState.unregister, getElem?_erase,
    apply_ite (Option.map Owned.connectionId), Option.map_none, hAgrees.senders,
    hAgrees.connections, hAgrees.directions, hAgrees.versions]

theorem register (peer : NodeId) (connectionId : Nat) (outbound : Bool) (minor : UInt16) :
    Agrees (peers.register peer connectionId outbound minor) := by
  constructor <;> intro other
  all_goals simp only [PeerState.register, getElem?_insert,
    apply_ite (Option.map Owned.connectionId), Option.map_some, hAgrees.senders,
    hAgrees.connections, hAgrees.directions, hAgrees.versions]

end Agrees

----
-- Entries Belong to Running Tasks
----

/- A running task has registered the connection. -/
def HeldBy (system : NetSystem) (peer : NodeId) (connectionId : Nat) : Prop :=
  ∃ (task : Nat) (phase : TaskPhase) (session : Session), system.tasks[task]? = some phase ∧
    phase.registered = some session ∧ session.connectionId = connectionId ∧
    session.peer.nodeId = peer

structure ConnInv (host : Host) (system : NetSystem) : Prop where
  agrees : Agrees system.peers
  held : ∀ (peer : NodeId) (connectionId : Nat),
    system.peers.connectionIds[peer]? = some connectionId → HeldBy system peer connectionId
  unique : ∀ (first second : Nat) (phase phase' : TaskPhase) (session session' : Session),
    system.tasks[first]? = some phase → system.tasks[second]? = some phase' →
      phase.session = some session → phase'.session = some session' →
      session.connectionId = session'.connectionId → first = second
  drawn : ∀ (task : Nat) (phase : TaskPhase) (session : Session), system.tasks[task]? = some phase →
    phase.session = some session → session.connectionId < system.connectionSequence
  fresh : ∀ task, system.nextTask ≤ task → system.tasks[task]? = none
  bounded : system.peers.senders.size ≤ host.config.maxConnections

/- The step of one task: only its own phase changes. -/
structure Moves (system : NetSystem) (task : Nat) (phase : TaskPhase)
    (next : NetSystem) : Prop where
  tasks : next.tasks = system.tasks.insert task phase
  nextTask : next.nextTask = system.nextTask
  sequence : next.connectionSequence = system.connectionSequence

namespace ConnInv

variable (hInv : ConnInv host system)

include hInv

/- Two tasks never have the same connection. -/
theorem connectionId_ne {other : Nat} {phase' : TaskPhase} {session session' : Session}
    (hNe : task ≠ other) (hTask : system.tasks[task]? = some phase)
    (hOther : system.tasks[other]? = some phase') (hSession : phase.session = some session)
    (hSession' : phase'.session = some session') :
    session.connectionId ≠ session'.connectionId := by
  intro hId
  exact hNe (hInv.unique task other phase phase' session
    session' hTask hOther hSession hSession' hId)

section

variable {session : Session}
variable (hTask : system.tasks[task]? = some phase) (hSession : phase.session = some session)
include hTask hSession

/- An entry for a task's connection is an entry for its peer. -/
theorem peer_eq {peer : NodeId}
    (hEntry : system.peers.connectionIds[peer]? = some session.connectionId) :
    phase.registered = some session ∧ session.peer.nodeId = peer := by
  rcases hInv.held peer session.connectionId hEntry with
    ⟨holder, phase', session', hHolder, hRegistered, hId, hPeer⟩
  have hSame : holder = task := hInv.unique holder task phase' phase session' session hHolder hTask
    (TaskPhase.session_of_registered hRegistered) hSession hId
  subst hSame
  rw [hTask] at hHolder
  cases hHolder
  have hEq := TaskPhase.session_of_registered hRegistered
  rw [hSession] at hEq
  cases hEq
  exact ⟨hRegistered, hPeer⟩

/- A task that has returned holds no entry. -/
theorem noEntries (hOut : phase.registered = none) :
    NoEntries system.peers session.connectionId := by
  apply hInv.agrees.noEntries
  intro peer hEntry
  have hHeld := (hInv.peer_eq hTask hSession hEntry).1
  rw [hOut] at hHeld
  cases hHeld

end

theorem task_lt (hTask : system.tasks[task]? = some phase) : task < system.nextTask := by
  by_contra hLate
  rw [hInv.fresh task (not_lt.mp hLate)] at hTask
  cases hTask

/-
  One task gets a new phase, with the session that it had or a
  new one.  Every entry of the new table is an old one that its
  task still holds, or the task's own.
-/
theorem insertTask (hTasks : next.tasks = system.tasks.insert task after)
    (hKnown : task < next.nextTask) (hLater : system.nextTask ≤ next.nextTask)
    (hSequence : system.connectionSequence ≤ next.connectionSequence)
    (hSession : ∀ session, after.session = some session →
      (∃ before, system.tasks[task]? = some before ∧ before.session = some session) ∨
        session.connectionId = system.connectionSequence ∧
          session.connectionId < next.connectionSequence) (hAgrees : Agrees next.peers)
    (hBounded : next.peers.senders.size ≤ host.config.maxConnections)
    (hEntries : ∀ (peer : NodeId) (connectionId : Nat),
      next.peers.connectionIds[peer]? = some connectionId →
        (system.peers.connectionIds[peer]? = some connectionId ∧ ∀ before session,
          system.tasks[task]? = some before → before.registered = some session →
            session.connectionId = connectionId → after.registered = some session) ∨
          ∃ session, after.registered = some session ∧ session.connectionId = connectionId ∧
            session.peer.nodeId = peer) : ConnInv host next := by
  have hLookup : ∀ other : Nat, next.tasks[other]? =
    if task = other then some after else system.tasks[other]? := by
    intro other
    rw [hTasks, getElem?_insert]
  -- The sessions of the tasks are what they were, but for a new one.
  have hSessions : ∀ (other : Nat) (phase : TaskPhase) (session : Session),
    next.tasks[other]? = some phase → phase.session = some session →
      (∃ phase', system.tasks[other]? = some phase' ∧ phase'.session = some session) ∨
        task = other ∧ session.connectionId = system.connectionSequence ∧
          session.connectionId < next.connectionSequence := by
    intro other phase session hOther hPhase
    rw [hLookup] at hOther
    split_ifs at hOther with hSame
    · cases hOther
      subst hSame
      exact (hSession session hPhase).imp_right (And.intro rfl)
    · exact Or.inl ⟨phase, hOther, hPhase⟩
  refine ⟨hAgrees, ?_, ?_, ?_, ?_, hBounded⟩
  · intro peer connectionId hEntry
    rcases hEntries peer connectionId hEntry with ⟨hOld, hKept⟩ | ⟨session, hOwn⟩
    · rcases hInv.held peer connectionId hOld with
        ⟨holder, phase, session, hHolder, hRegistered, hId, hPeer⟩
      by_cases hSame : task = holder
      · subst hSame
        exact ⟨task, after, session, (hLookup task).trans (if_pos rfl),
          hKept phase session hHolder hRegistered hId, hId, hPeer⟩
      · exact ⟨holder, phase, session, (hLookup holder).trans ((if_neg hSame).trans hHolder),
          hRegistered, hId, hPeer⟩
    · exact ⟨task, after, session, (hLookup task).trans (if_pos rfl), hOwn⟩
  · intro first second phase phase' session session' hFirst hSecond hPhase hPhase' hId
    rcases hSessions first phase session hFirst hPhase with ⟨old, hOld, hHad⟩ | ⟨hOne, hNew, -⟩
    · rcases hSessions second phase' session' hSecond hPhase' with ⟨old', hOld', hHad'⟩ | ⟨-, _, -⟩
      · exact hInv.unique first second old old' session session' hOld hOld' hHad hHad' hId
      · have hLower := hInv.drawn first old session hOld hHad
        omega
    · rcases hSessions second phase' session' hSecond hPhase' with ⟨old', hOld', hHad'⟩ | ⟨hTwo, -⟩
      · have hLower := hInv.drawn second old' session' hOld' hHad'
        omega
      · exact hOne.symm.trans hTwo
  · intro other phase session hOther hPhase
    rcases hSessions other phase session hOther hPhase with ⟨old, hOld, hHad⟩ | ⟨-, -, hLower⟩
    · exact lt_of_lt_of_le (hInv.drawn other old session hOld hHad) hSequence
    · exact hLower
  · intro other _
    rw [hLookup, if_neg (by omega)]
    exact hInv.fresh other (by omega)

/- A task moves on with its session. -/
theorem move (hTask : system.tasks[task]? = some before) (hMoves : Moves system task after next)
    (hSession : after.session = before.session) (hAgrees : Agrees next.peers)
    (hBounded : next.peers.senders.size ≤ host.config.maxConnections)
    (hEntries : ∀ (peer : NodeId) (connectionId : Nat),
      next.peers.connectionIds[peer]? = some connectionId →
        (system.peers.connectionIds[peer]? = some connectionId ∧
          ∀ session, before.registered = some session → session.connectionId = connectionId →
            after.registered = some session) ∨
          ∃ session, after.registered = some session ∧ session.connectionId = connectionId ∧
            session.peer.nodeId = peer) : ConnInv host next := by
  refine hInv.insertTask hMoves.tasks (hMoves.nextTask ▸ hInv.task_lt hTask)
    hMoves.nextTask.ge hMoves.sequence.ge ?_ hAgrees hBounded ?_
  · intro session hAfter
    exact Or.inl ⟨before, hTask, hSession ▸ hAfter⟩
  · intro peer connectionId hEntry
    refine (hEntries peer connectionId hEntry).imp_left (And.imp_right ?_)
    intro hKept phase session hPhase
    rw [hTask] at hPhase
    cases hPhase
    exact hKept session

end ConnInv

----
-- Calls That Do Not Fail
----

def WorkSucceeds (host : Host) (env : WorkEnv) (peers : PeerState) : Work → Prop
| .upsertPeer announcement =>
  PeerWelcome host env.call peers announcement.record ∧ env.call.saved = true
| .addressUpdate _ => env.call.saved = true
| .keyRotation rotation => rotationContradicts peers rotation = false ∧ env.call.saved = true
| .reply _ => env.queued = true
| .forward _ _ => True

/- The work that a task does next. -/
def nextWork (system : NetSystem) (task : Nat) : Option Work :=
  match system.tasks[task]? with
  | some (.working _ (item :: _)) => some item
  | _ => none

/- No call fails that is made after the registration. -/
def CallSucceeds (host : Host) (system : NetSystem) : TaskAction → Prop
| .register _ env => env.saved = true
| .greet _ env => env.signed = .ok () ∧ env.queued = true
| .work task env => ∀ item ∈ nextWork system task, WorkSucceeds host env system.peers item
| _ => True

instance (host : Host) (env : WorkEnv) (peers : PeerState) (item : Work) :
    Decidable (WorkSucceeds host env peers item) := by
  unfold WorkSucceeds PeerWelcome
  cases item <;> infer_instance

instance (host : Host) (system : NetSystem) (action : TaskAction) :
    Decidable (CallSucceeds host system action) := by
  unfold CallSucceeds
  cases action <;> infer_instance

theorem runWork_ok (hSucceeds : WorkSucceeds host env peers item) :
    (runWork host env peers item).2 = .ok () := by
  cases item with
  | upsertPeer announcement =>
    exact upsertPeer_ok hSucceeds.1 hSucceeds.2
  | addressUpdate update =>
    rw [runWork]
    split_ifs
    · exact upsertAddressUpdate_ok hSucceeds
    · rfl
  | keyRotation rotation =>
    rw [runWork]
    split_ifs
    · exact upsertKeyRotation_ok hSucceeds.1 hSucceeds.2
    · rfl
  | reply message => exact if_pos hSucceeds
  | forward peer message => rfl

theorem runWork_sameConnections : SameConnections peers (runWork host env peers item).1 := by
  cases item with
  | upsertPeer announcement => exact upsertPeer_sameConnections
  | addressUpdate update =>
    rw [runWork]
    split_ifs
    · exact upsertAddressUpdate_sameConnections
    · exact .refl peers
  | keyRotation rotation =>
    rw [runWork]
    split_ifs
    · exact upsertKeyRotation_sameConnections
    · exact .refl peers
  | reply message | forward peer message => exact .refl peers

----
-- What the Steps Keep
----

/- Events, flags and records are not tasks. -/
structure SameTasks (before after : NetSystem) : Prop where
  tasks : after.tasks = before.tasks
  nextTask : after.nextTask = before.nextTask
  sequence : after.connectionSequence = before.connectionSequence

section

variable {session : Session}

theorem emit_eq :
    ∃ events, system.emit session event = { system with events := events } ∧
      (events = system.events ++ [⟨session.connectionId, event⟩] ∨
        events = system.events ∧ system.eventsOpen = false) := by
  unfold NetSystem.emit
  split_ifs with hOpen
  · exact ⟨_, rfl, Or.inl rfl⟩
  · exact ⟨system.events, rfl, Or.inr ⟨rfl, by simpa using hOpen⟩⟩

/-
  The connections are what they were, and so are the records
  unless the step is a piece of work.
-/
structure TableKept (host : Host) (system : NetSystem) (action : TaskAction) (task : Nat)
    (peers : PeerState) : Prop where
  same : SameConnections system.peers peers
  records : peers.records = system.peers.records ∨ ∃ env item, action = .work task env ∧
    nextWork system task = some item ∧ peers = (runWork host env system.peers item).1

/-
  A task goes on from `before` to `after` and leaves the table of
  connections alone.  It keeps its place there, and reports what
  it has to, if no call fails.
-/
structure GoesOn (host : Host) (system : NetSystem) (action : TaskAction) (task : Nat)
    (before after : TaskPhase) (next : NetSystem) : Prop where
  moves : Moves system task after next
  session : after.session = before.session
  registered : CallSucceeds host system action → after.registered = before.registered
  table : TableKept host system action task next.peers
  closed : system.closed ⊆ next.closed
  replaced : next.replaced = system.replaced
  listening : next.eventsOpen = system.eventsOpen
  announced : after.announced = true ∨ after.announced = before.announced
  events : next.events = system.events ∨ after.announced = true ∧ ∃ session event,
    before.session = some session ∧ next.events = system.events ++ [⟨session.connectionId, event⟩]
  reports : CallSucceeds host system action → system.eventsOpen = true → ∀ session result,
    after = .returned (some session) result →
      before.announced = false ∧ next.events = system.events ∨
        ⟨session.connectionId, .peerDisconnected session.peer.nodeId⟩ ∈ next.events

/- What a task does when it is woken. -/
inductive PhaseEffect (host : Host) (system : NetSystem) (action : TaskAction) (task : Nat) :
    TaskPhase → NetSystem → Prop where
  | goesOn {before after : TaskPhase} {next : NetSystem}
    (hGoes : GoesOn host system action task before after next) :
    PhaseEffect host system action task before next
  | draws (outbound : Bool) (session : Session) (seenHellos : List (NodeId × Nonce))
    (hId : session.connectionId = system.connectionSequence) :
    PhaseEffect host system action task (.handshake outbound) (NetSystem.setTask { system with
      seenHellos := seenHellos, connectionSequence := system.connectionSequence + 1 }
      task (.inspecting session))
  | registers (session : Session) (existing : Option (Nat × UInt16)) (stale : Bool)
    (env : CallEnv) (hAction : action = .register task env) :
    PhaseEffect host system action task (.registering session existing stale)
      (registerTask host env system task session existing stale)
  | cleans (session : Session) :
    PhaseEffect host system action task (.closing session) (cleanupTask system task session)

theorem TableKept.refl : TableKept host system action task system.peers :=
  ⟨.refl _, Or.inl rfl⟩

/- The task goes on without a word. -/
theorem PhaseEffect.silent (hTable : TableKept host system action task peers)
    {seenHellos : List (NodeId × Nonce)} {stopped : Finset Nat}
    (hSession : after.session = before.session)
    (hRegistered : CallSucceeds host system action → after.registered = before.registered)
    (hAnnounced : after.announced = true ∨ after.announced = before.announced)
    (hReturned : ∀ session result, after = .returned (some session) result →
      ¬ CallSucceeds host system action) :
    PhaseEffect host system action task before (NetSystem.setTask
      { system with peers := peers, seenHellos := seenHellos, stopped := stopped } task after) :=
  .goesOn ⟨⟨rfl, rfl, rfl⟩, hSession, hRegistered, hTable, Finset.Subset.refl _, rfl, rfl,
    hAnnounced, Or.inl rfl,
    fun hCall _ session result hEq => absurd hCall (hReturned session result hEq)⟩

/- It goes on with an event of its own. -/
theorem PhaseEffect.emits (hTable : TableKept host system action task peers)
    (hBefore : before.session = some session) (hSession : after.session = before.session)
    (hRegistered : after.registered = before.registered) (hAnnounced : after.announced = true)
    (hReturned : ∀ session' result, after = .returned (some session') result →
      session' = session ∧ event = .peerDisconnected session.peer.nodeId) :
    PhaseEffect host system action task before
      ((NetSystem.emit { system with peers := peers } session event).setTask task after) := by
  rcases emit_eq with ⟨events, hEq, hEvents⟩
  rw [hEq]
  refine .goesOn ⟨⟨rfl, rfl, rfl⟩, hSession, fun _ => hRegistered, hTable, Finset.Subset.refl _,
    rfl, rfl, Or.inl hAnnounced, ?_, ?_⟩
  · rcases hEvents with hMore | ⟨hSame, -⟩
    · exact Or.inr ⟨hAnnounced, session, event, hBefore, hMore⟩
    · exact Or.inl hSame
  · intro _ hOpen session' result hReturns
    rcases hReturned session' result hReturns with ⟨rfl, rfl⟩
    rcases hEvents with hMore | ⟨-, hShut⟩
    · exact Or.inr (hMore ▸ List.mem_append_right _ (List.mem_singleton_self _))
    · rw [hOpen] at hShut
      cases hShut

theorem helloTask_effect {env : HelloEnv} :
    PhaseEffect host system action task (.handshake outbound)
      (helloTask host env system task outbound) := by
  unfold helloTask
  split
  · exact .silent .refl rfl (fun _ => rfl) (Or.inl rfl) (by simp)
  · dsimp only
    split
    · exact .silent .refl rfl (fun _ => rfl) (Or.inl rfl) (by simp)
    · exact .silent .refl rfl (fun _ => rfl) (Or.inl rfl) (by simp)
    · exact .draws outbound _ _ rfl
  · exact .silent .refl rfl (fun _ => rfl) (Or.inl rfl) (by simp)

theorem readTask_effect {incoming : Incoming} :
    PhaseEffect host system action task (.reading session)
      (readTask host system task session incoming) := by
  have hStarts : ∀ left, PhaseEffect host system action task (.reading session)
    (startWork system task session left) := by
    intro left
    unfold startWork
    split
    all_goals exact .silent .refl rfl (fun _ => rfl) (Or.inl rfl) (by simp)
  unfold readTask
  split
  · exact .emits .refl rfl rfl rfl rfl (by simp)
  · exact hStarts _
  · exact .emits .refl rfl rfl rfl rfl (by simp)
  · exact .silent .refl rfl (fun _ => rfl) (Or.inl rfl) (by simp)
  · exact hStarts _

theorem greetTask_effect {left : List Greeting} :
    PhaseEffect host system (.greet task env) task (.greeting session (greeting :: left))
      (greetTask env system task session greeting left) := by
  unfold greetTask
  split
  · rename_i error hFailed
    have hFails : ¬ CallSucceeds host system (.greet task env) := by
      rintro ⟨hSigned, hQueued⟩
      cases greeting <;> simp [greet, queue, hSigned, hQueued] at hFailed
    exact .silent .refl rfl (fun hCall => absurd hCall hFails) (Or.inl rfl) (fun _ _ _ => hFails)
  · split_ifs
    all_goals exact .silent .refl rfl (fun _ => rfl) (Or.inl rfl) (by simp)

theorem workTask_effect {left : List Work}
    (hTask : system.tasks[task]? = some (.working session (item :: left))) :
    PhaseEffect host system (.work task env) task (.working session (item :: left))
      (workTask host env system task session item left) := by
  have hNext : nextWork system task = some item := by
    rw [nextWork, hTask]
  have hTable : TableKept host system (.work task env) task
    (runWork host env system.peers item).1 :=
    ⟨runWork_sameConnections, Or.inr ⟨env, item, rfl, hNext, rfl⟩⟩
  unfold workTask
  dsimp only
  split
  · rename_i error hFailed
    have hFails : ¬ CallSucceeds host system (.work task env) := by
      intro hCall
      rw [runWork_ok (hCall item hNext)] at hFailed
      cases hFailed
    exact .silent hTable rfl (fun hCall => absurd hCall hFails) (Or.inl rfl) (fun _ _ _ => hFails)
  · cases item.emitted with
    | none =>
      split_ifs
      all_goals exact .silent hTable rfl (fun _ => rfl) (Or.inl rfl) (by simp)
    | some event =>
      split_ifs
      all_goals exact .emits hTable rfl rfl rfl rfl (by simp)

theorem taskStep_cases (hStep : taskStep host system action = some next) :
    outerStep system action = some next ∨ ∃ task phase, system.tasks[task]? = some phase ∧
      PhaseEffect host system action task phase next := by
  unfold taskStep at hStep
  split at hStep
  · exact Or.inl hStep
  · rename_i task hAction
    split at hStep
    · cases hStep
    · rename_i phase hTask
      refine Or.inr ⟨task, phase, hTask, ?_⟩
      unfold phaseStep at hStep
      split at hStep <;> cases hStep
      · exact helloTask_effect
      · exact .silent .refl rfl (fun _ => rfl) (Or.inr rfl) (by simp)
      · exact .silent .refl rfl (fun _ => rfl) (Or.inr rfl) (by simp)
      · cases hAction
        exact .registers _ _ _ _ rfl
      · exact .emits .refl rfl rfl rfl rfl (by simp)
      · cases hAction
        exact greetTask_effect
      · exact readTask_effect
      · cases hAction
        exact workTask_effect hTask
      · exact .cleans _
      · refine .emits .refl rfl rfl rfl rfl ?_
        rintro session' result ⟨⟩
        exact ⟨rfl, rfl⟩

theorem closeDisplaced_eq {host : Host} {system next : NetSystem} {existing : Option (Nat × UInt16)}
    {stale : Bool} :
    ∃ closed, closeDisplaced host system next session existing stale =
      { next with closed := closed } := by
  unfold closeDisplaced
  split
  · exact ⟨next.closed, rfl⟩
  · split_ifs
    · exact ⟨_, rfl⟩
    · exact ⟨next.closed, rfl⟩

end

theorem refreshRecord_sameConnections (peers : PeerState) (record : PeerRecord) :
    SameConnections peers (refreshRecord peers record) := by
  unfold refreshRecord
  split_ifs
  · exact ⟨rfl, rfl, rfl, rfl, rfl⟩
  · exact .refl peers

theorem roomFor_sameConnections (now : UInt64) (peers : PeerState) (peer : NodeId) :
    SameConnections peers (roomFor now peers peer) := by
  unfold roomFor
  split_ifs
  · exact ⟨rfl, rfl, rfl, rfl, rfl⟩
  · exact .refl peers

/- Some connections are gone, and none has come. -/
structure Fewer (before after : PeerState) : Prop where
  agrees : Agrees before → Agrees after
  entries : ∀ (peer : NodeId) (connectionId : Nat), after.connectionIds[peer]? = some connectionId →
    before.connectionIds[peer]? = some connectionId
  size : after.senders.size ≤ before.senders.size

namespace Fewer

theorem of_sameConnections {before after : PeerState} (hSame : SameConnections before after) :
    Fewer before after := by
  refine ⟨fun hAgrees => hAgrees.of_sameConnections hSame, ?_, ?_⟩
  · intro peer connectionId hEntry
    rw [hSame.connectionIds] at hEntry
    exact hEntry
  · rw [hSame.senders]

theorem trans {first second third : PeerState} (hFirst : Fewer first second)
    (hSecond : Fewer second third) : Fewer first third :=
  ⟨fun hAgrees => hSecond.agrees (hFirst.agrees hAgrees), fun peer connectionId hEntry =>
    hFirst.entries peer connectionId (hSecond.entries peer connectionId hEntry),
    hSecond.size.trans hFirst.size⟩

theorem unregister (peers : PeerState) (peer : NodeId) : Fewer peers (peers.unregister peer) := by
  refine ⟨fun hAgrees => hAgrees.unregister peer, ?_, Std.TreeMap.size_erase_le⟩
  intro other connectionId hEntry
  exact getElem?_of_erase hEntry

theorem displace (host : Host) (system : NetSystem) (session : Session)
    (existing : Option (Nat × UInt16)) (stale : Bool) :
    Fewer system.peers (Network.displace host system session existing stale) := by
  unfold Network.displace
  split_ifs
  · exact .unregister _ _
  · exact .of_sameConnections (.refl system.peers)

end Fewer

namespace ConnInv

/- A task that holds nothing may leave with fewer entries. -/
theorem move_fewer (hInv : ConnInv host system) (hTask : system.tasks[task]? = some before)
    (hMoves : Moves system task after next) (hSession : after.session = before.session)
    (hRegistered : before.registered = none) (hPeers : Fewer system.peers next.peers) :
    ConnInv host next := by
  refine hInv.move hTask hMoves hSession (hPeers.agrees hInv.agrees)
    (hPeers.size.trans hInv.bounded) ?_
  intro peer connectionId hEntry
  refine Or.inl ⟨hPeers.entries peer connectionId hEntry, ?_⟩
  intro session hBefore
  rw [hRegistered] at hBefore
  cases hBefore

theorem goesOn (hInv : ConnInv host system) (hTask : system.tasks[task]? = some before)
    (hGoes : GoesOn host system action task before after next)
    (hSucceeds : CallSucceeds host system action) : ConnInv host next := by
  refine hInv.move hTask hGoes.moves hGoes.session
    (hInv.agrees.of_sameConnections hGoes.table.same) ?_ ?_
  · rw [hGoes.table.same.senders]
    exact hInv.bounded
  · intro peer connectionId hEntry
    rw [hGoes.table.same.connectionIds] at hEntry
    exact Or.inl ⟨hEntry, fun session hBefore _ => (hGoes.registered hSucceeds).trans hBefore⟩

/- What happens around the tasks leaves them alone. -/
theorem outer (hInv : ConnInv host system) (hTasks : SameTasks system next)
    (hPeers : Fewer system.peers next.peers) : ConnInv host next := by
  rcases hTasks with ⟨hTasks, hNext, hSequence⟩
  refine ⟨hPeers.agrees hInv.agrees, ?_, ?_, ?_, ?_, hPeers.size.trans hInv.bounded⟩
  · intro peer connectionId hEntry
    unfold HeldBy
    rw [hTasks]
    exact hInv.held peer connectionId (hPeers.entries peer connectionId hEntry)
  · rw [hTasks]
    exact hInv.unique
  · rw [hTasks, hSequence]
    exact hInv.drawn
  · rw [hTasks, hNext]
    exact hInv.fresh

theorem initial (host : Host) (known : PeerState) : ConnInv host (NetSystem.initial known) := by
  refine ⟨.disconnected known, ?_, ?_, ?_, ?_, ?_⟩
  · intro peer connectionId hEntry
    simp [NetSystem.initial, PeerState.disconnected] at hEntry
  · intro first second phase phase' session session' hFirst
    simp [NetSystem.initial] at hFirst
  · intro task phase session hTask
    simp [NetSystem.initial] at hTask
  · intro task _
    simp [NetSystem.initial]
  · simp [NetSystem.initial, PeerState.disconnected]

/- The session of a task begins with a new connection id. -/
theorem draw (hInv : ConnInv host system)
    (hTask : system.tasks[task]? = some (.handshake outbound)) (session : Session)
    (hId : session.connectionId = system.connectionSequence) (hTasks :
      next.tasks = system.tasks.insert task (.inspecting session))
    (hNext : next.nextTask = system.nextTask)
    (hSequence : next.connectionSequence = system.connectionSequence + 1)
    (hPeers : next.peers = system.peers) : ConnInv host next := by
  refine hInv.insertTask hTasks (hNext ▸ hInv.task_lt hTask) hNext.ge (by omega) ?_
    (hPeers ▸ hInv.agrees) (hPeers ▸ hInv.bounded) ?_
  · rintro session ⟨⟩
    exact Or.inr ⟨hId, by omega⟩
  · intro peer connectionId hEntry
    refine Or.inl ⟨hPeers ▸ hEntry, ?_⟩
    intro before session' hBefore hRegistered
    rw [hTask] at hBefore
    cases hBefore
    cases hRegistered

theorem accept (hInv : ConnInv host system) (outbound : Bool) : ConnInv host { system with
    tasks := system.tasks.insert system.nextTask (.handshake outbound)
    nextTask := system.nextTask + 1 } := by
  refine hInv.insertTask rfl (Nat.lt_succ_self _) (Nat.le_succ _) le_rfl nofun hInv.agrees
    hInv.bounded ?_
  intro peer connectionId hEntry
  refine Or.inl ⟨hEntry, ?_⟩
  intro before session hBefore
  rw [hInv.fresh system.nextTask le_rfl] at hBefore
  cases hBefore

theorem makeCurrent_entry (system : NetSystem) (session : Session) (room : PeerState)
    (peer : NodeId) : (makeCurrent system session room).peers.connectionIds[peer]? =
      if session.peer.nodeId = peer then
        some session.connectionId
      else
        room.connectionIds[peer]? := by
  have hSame := refreshRecord_sameConnections room session.peer
  change ((refreshRecord room session.peer).connectionIds.insert session.peer.nodeId
    session.connectionId)[peer]? = _
  rw [getElem?_insert, hSame.connectionIds]

variable (hInv : ConnInv host system)

include hInv

theorem registerTask (env : CallEnv) {session : Session} {existing : Option (Nat × UInt16)}
    {stale : Bool} (hTask : system.tasks[task]? = some (.registering session existing stale))
    (hSaved : env.saved = true) :
    ConnInv host (Network.registerTask host env system task session existing stale) := by
  have hFewer := Fewer.displace host system session existing stale
  have hRoom := Fewer.of_sameConnections (roomFor_sameConnections env.now
    (displace host system session existing stale) session.peer.nodeId)
  unfold Network.registerTask
  dsimp only
  split_ifs with hDuplicate hMany hFull
  · exact hInv.move_fewer hTask ⟨rfl, rfl, rfl⟩ rfl rfl
      (hFewer.trans (.of_sameConnections (refreshRecord_sameConnections _ session.peer)))
  · exact hInv.move_fewer hTask ⟨rfl, rfl, rfl⟩ rfl rfl hFewer
  · exact hInv.move_fewer hTask ⟨rfl, rfl, rfl⟩ rfl rfl (hFewer.trans hRoom)
  · rcases closeDisplaced_eq with ⟨closed, hClosed⟩
    rw [hClosed]
    have hRefresh := refreshRecord_sameConnections
      (roomFor env.now (displace host system session existing stale) session.peer.nodeId)
      session.peer
    refine hInv.move hTask ⟨rfl, rfl, rfl⟩ rfl ?_ ?_ ?_
    · exact ((hRoom.agrees (hFewer.agrees hInv.agrees)).of_sameConnections hRefresh).register
        _ _ _ _
    · have hSize : (roomFor env.now (displace host system session existing stale)
        session.peer.nodeId).senders.size <
        host.config.maxConnections := by
        rw [(roomFor_sameConnections env.now _ _).senders]
        simpa [tooManyConnections] using hMany
      refine Nat.le_trans Std.TreeMap.size_insert_le ?_
      rw [hRefresh.senders]
      omega
    · intro peer connectionId hEntry
      change (makeCurrent system session _).peers.connectionIds[peer]? = _ at hEntry
      rw [makeCurrent_entry] at hEntry
      split_ifs at hEntry with hPeer
      · cases hEntry
        exact Or.inr ⟨session, rfl, rfl, hPeer⟩
      · refine Or.inl ⟨hFewer.entries peer connectionId
          (hRoom.entries peer connectionId hEntry), ?_⟩
        intro session' hBefore
        cases hBefore

theorem cleanupTask {session : Session} (hTask : system.tasks[task]? = some (.closing session)) :
    ConnInv host (Network.cleanupTask system task session) := by
  unfold Network.cleanupTask
  split_ifs with hCurrent
  · have hFewer := Fewer.unregister system.peers session.peer.nodeId
    refine hInv.move hTask ⟨rfl, rfl, rfl⟩ rfl (hFewer.agrees hInv.agrees)
      (hFewer.size.trans hInv.bounded) ?_
    intro peer connectionId hEntry
    have hOld := hFewer.entries peer connectionId hEntry
    refine Or.inl ⟨hOld, ?_⟩
    intro session' hBefore hId
    cases hBefore
    exfalso
    rw [← hId] at hOld
    have hPeer := (hInv.peer_eq hTask rfl hOld).2
    change (system.peers.connectionIds.erase session.peer.nodeId)[peer]? = _ at hEntry
    rw [getElem?_erase, if_pos hPeer] at hEntry
    cases hEntry
  · refine hInv.move hTask ⟨rfl, rfl, rfl⟩ rfl hInv.agrees hInv.bounded ?_
    intro peer connectionId hEntry
    refine Or.inl ⟨hEntry, ?_⟩
    intro session' hBefore hId
    cases hBefore
    exfalso
    rw [← hId] at hEntry
    have hPeer := (hInv.peer_eq hTask rfl hEntry).2
    apply hCurrent
    rw [hPeer]
    exact hEntry

theorem reconnectPeer (peer : NodeId) : ConnInv host (Network.reconnectPeer system peer) := by
  have hFewer := Fewer.unregister system.peers peer
  unfold Network.reconnectPeer
  split
  · exact hInv.outer ⟨rfl, rfl, rfl⟩ hFewer
  · split_ifs
    · exact hInv.outer ⟨rfl, rfl, rfl⟩ hFewer
    · exact hInv.outer ⟨rfl, rfl, rfl⟩ hFewer

theorem outerStep (action : TaskAction) (hStep : Network.outerStep system action = some next) :
    ConnInv host next := by
  have hSame := Fewer.of_sameConnections (SameConnections.refl system.peers)
  unfold Network.outerStep at hStep
  split at hStep <;> cases hStep
  · exact hInv.accept _
  · exact hInv.outer ⟨rfl, rfl, rfl⟩ hSame
  · exact hInv.outer ⟨rfl, rfl, rfl⟩ hSame
  · exact hInv.reconnectPeer _
  · exact hInv.outer ⟨rfl, rfl, rfl⟩ (.of_sameConnections ⟨rfl, rfl, rfl, rfl, rfl⟩)
  · exact hInv.outer ⟨rfl, rfl, rfl⟩ hSame

theorem step (action : TaskAction) (hSucceeds : CallSucceeds host system action)
    (hStep : taskStep host system action = some next) : ConnInv host next := by
  rcases taskStep_cases hStep with hOuter | ⟨task, phase, hTask, hEffect⟩
  · exact hInv.outerStep action hOuter
  · cases hEffect with
    | goesOn hGoes => exact hInv.goesOn hTask hGoes hSucceeds
    | draws outbound session seenHellos hId => exact hInv.draw hTask session hId rfl rfl rfl rfl
    | registers session existing stale env hAction =>
      subst hAction
      exact hInv.registerTask env hTask hSucceeds
    | cleans session => exact hInv.cleanupTask hTask

end ConnInv

end IntelligenceNetwork.Network
