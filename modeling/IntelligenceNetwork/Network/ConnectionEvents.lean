import IntelligenceNetwork.Network.ConnectionCleanup

/-
  What a connection reports before it is gone.

  A task that has reported its peer as connected reports it as
  disconnected, unless another connection replaced its own.
  There are two exceptions: a peer that is to be dialled again,
  and a connection that gives way to one that finds no room.

  Main declarations:
    * `EventInv`
    * `KeepsCurrent`
    * `returned_clean`
-/

----
-- Events of a Connection
----

namespace IntelligenceNetwork.Network

open Transition OrderedMap

variable {after : TaskPhase} {host : Host} {next system : NetSystem} {task : Nat}

/- A peer reported as connected is so no more, or replaced. -/
def Settled (system : NetSystem) (session : Session) : Prop :=
  ∀ record, ⟨session.connectionId, .peerConnected record⟩ ∈ system.events →
    ⟨session.connectionId, .peerDisconnected session.peer.nodeId⟩ ∈ system.events ∨
      session.connectionId ∈ system.replaced

structure EventInv (system : NetSystem) : Prop where
  current : ∀ (task : Nat) (phase : TaskPhase) (session : Session),
    system.tasks[task]? = some phase → phase.registered = some session →
      system.peers.connectionIds[session.peer.nodeId]? = some session.connectionId ∨
        session.connectionId ∈ system.replaced
  quiet : ∀ (task : Nat) (phase : TaskPhase) (session : Session), system.tasks[task]? = some phase →
    phase.session = some session → phase.announced = false →
    ∀ emission ∈ system.events, emission.connectionId ≠ session.connectionId
  settled : ∀ (task : Nat) (session : Session) (result : Except NetworkError Unit),
    system.tasks[task]? = some (.returned (some session) result) → Settled system session
  drawn : ∀ emission ∈ system.events, emission.connectionId < system.connectionSequence
  listening : system.eventsOpen = true

/- The registration that a task is about to make. -/
def nextRegistration (system : NetSystem) (task : Nat) :
    Option (Session × Option (Nat × UInt16) × Bool) :=
  match system.tasks[task]? with
  | some (.registering session existing stale) => some (session, existing, stale)
  | _ => none

/-
  A connection that makes another one give way has a place in
  the table of records, a peer that is dialled again has no
  connection, and somebody receives the events.
-/
def KeepsCurrent (host : Host) (system : NetSystem) : TaskAction → Prop
| .register task env =>
  ∀ entry ∈ nextRegistration system task, displaces host system entry.1 entry.2.1 entry.2.2 = true →
      (roomFor env.now (displace host system entry.1 entry.2.1 entry.2.2)
        entry.1.peer.nodeId).recordsFull entry.1.peer.nodeId = false
| .reconnect peer => system.peers.connectionIds[peer]? = none
| .closeEvents => False
| _ => True

instance (host : Host) (system : NetSystem) :
    (action : TaskAction) → Decidable (KeepsCurrent host system action)
| .register _ _ => inferInstanceAs (Decidable (∀ entry ∈ nextRegistration system _, _ → _))
| .reconnect _ => inferInstanceAs (Decidable (_ = _))
| .closeEvents => inferInstanceAs (Decidable False)
| .accept _ | .hello _ _ | .inspect _ | .probe _ _ | .announce _ _ | .greet _ _ | .read _ _
| .work _ _ | .cleanup _ | .leave _ | .closeConnection _ | .stopWriter _ | .expire _ =>
  inferInstanceAs (Decidable True)

namespace EventInv

theorem initial (known : PeerState) : EventInv (NetSystem.initial known) := by
  refine ⟨?_, ?_, ?_, ?_, rfl⟩
  · intro task phase session hTask
    simp [NetSystem.initial] at hTask
  · intro task phase session hTask
    simp [NetSystem.initial] at hTask
  · intro task session result hTask
    simp [NetSystem.initial] at hTask
  · intro emission hEmission
    cases hEmission

/- What one task adds to the events carries its own id. -/
def EmitsOwn (system : NetSystem) (phase : TaskPhase) (next : NetSystem) : Prop :=
  ∃ emitted,
    next.events = system.events ++ emitted ∧ ∀ emission ∈ emitted, ∃ session,
      phase.session = some session ∧ emission.connectionId = session.connectionId

theorem EmitsOwn.nothing (system : NetSystem) (phase : TaskPhase)
    (hEvents : next.events = system.events) : EmitsOwn system phase next := by
  refine ⟨[], ?_, ?_⟩
  · rw [hEvents, List.append_nil]
  · intro emission hEmission
    cases hEmission

/-
  One task gets a new phase.  The connections of the others stay
  in the table or are replaced; what is left to show is about
  the task itself.
-/
theorem insertTask (hConn : ConnInv host system) (hInv : EventInv system) (before : TaskPhase)
    (hTask : before.session ≠ none → system.tasks[task]? = some before)
    (hTasks : next.tasks = system.tasks.insert task after)
    (hSequence : system.connectionSequence ≤ next.connectionSequence)
    (hReplaced : system.replaced ⊆ next.replaced) (hEmits : EmitsOwn system before next)
    (hListening : next.eventsOpen = true) (hKept : ∀ (peer : NodeId) (connectionId : Nat),
      system.peers.connectionIds[peer]? = some connectionId →
        next.peers.connectionIds[peer]? = some connectionId ∨ connectionId ∈ next.replaced ∨
          ∃ session, before.session = some session ∧ session.connectionId = connectionId)
    (hCurrent : ∀ session, after.registered = some session →
      next.peers.connectionIds[session.peer.nodeId]? = some session.connectionId ∨
        session.connectionId ∈ next.replaced)
    (hQuiet : after.announced = false → ∀ session, after.session = some session →
      ∀ emission ∈ next.events, emission.connectionId ≠ session.connectionId)
    (hSettled : ∀ session result, after = .returned (some session) result → Settled next session) :
    EventInv next := by
  have hLookup : ∀ other : Nat, next.tasks[other]? =
    if task = other then some after else system.tasks[other]? := by
    intro other
    rw [hTasks, getElem?_insert]
  rcases hEmits with ⟨emitted, hEvents, hOwn⟩
  -- Another task's connection is not the one that moved.
  have hForeign : ∀ (other : Nat) (phase : TaskPhase) (session own : Session), task ≠ other →
    system.tasks[other]? = some phase → phase.session = some session →
      before.session = some own → own.connectionId ≠ session.connectionId := by
    intro other phase session own hNe hPhase hSession hBefore
    exact hConn.connectionId_ne hNe (hTask (by simp [hBefore])) hPhase hBefore hSession
  refine ⟨?_, ?_, ?_, ?_, hListening⟩
  · intro other phase session hPhase hRegistered
    rw [hLookup] at hPhase
    split_ifs at hPhase with hSame
    · cases hPhase
      exact hCurrent session hRegistered
    · have hSession := TaskPhase.session_of_registered hRegistered
      rcases hInv.current other phase session hPhase hRegistered with hEntry | hGone
      · rcases hKept _ _ hEntry with hStays | hGone | ⟨own, hBefore, hId⟩
        · exact Or.inl hStays
        · exact Or.inr hGone
        · exact absurd hId (hForeign other phase session own hSame hPhase hSession hBefore)
      · exact Or.inr (hReplaced hGone)
  · intro other phase session hPhase hSession hUnannounced emission hEmission
    rw [hLookup] at hPhase
    split_ifs at hPhase with hSame
    · cases hPhase
      exact hQuiet hUnannounced session hSession emission hEmission
    · rw [hEvents, List.mem_append] at hEmission
      rcases hEmission with hOld | hNew
      · exact hInv.quiet other phase session hPhase hSession hUnannounced emission hOld
      · rcases hOwn emission hNew with ⟨own, hBefore, hId⟩
        rw [hId]
        exact hForeign other phase session own hSame hPhase hSession hBefore
  · intro other session result hPhase
    rw [hLookup] at hPhase
    split_ifs at hPhase with hSame
    · cases hPhase
      exact hSettled session result rfl
    · intro record hConnected
      rw [hEvents, List.mem_append] at hConnected
      rcases hConnected with hOld | hNew
      · rcases hInv.settled other session result hPhase record hOld with hGone | hGone
        · left
          rw [hEvents]
          exact List.mem_append_left emitted hGone
        · exact Or.inr (hReplaced hGone)
      · rcases hOwn _ hNew with ⟨own, hBefore, hId⟩
        exact absurd hId.symm (hForeign other _ session own hSame hPhase rfl hBefore)
  · intro emission hEmission
    rw [hEvents, List.mem_append] at hEmission
    rcases hEmission with hOld | hNew
    · exact lt_of_lt_of_le (hInv.drawn emission hOld) hSequence
    · rcases hOwn emission hNew with ⟨session, hBefore, hId⟩
      rw [hId]
      exact lt_of_lt_of_le
        (hConn.drawn task before session (hTask (by simp [hBefore])) hBefore) hSequence

end EventInv

----
-- What the Steps Keep
----

theorem SameConnections.lookup {before after : PeerState} (hSame : SameConnections before after)
    (peer : NodeId) : after.connectionIds[peer]? = before.connectionIds[peer]? := by
  rw [hSame.connectionIds]

/- Nothing but events, flags and records has changed. -/
structure SameTable (before after : NetSystem) : Prop where
  tasks : SameTasks before after
  connectionIds : ∀ peer : NodeId, after.peers.connectionIds[peer]? =
    before.peers.connectionIds[peer]?
  replaced : after.replaced = before.replaced
  listening : after.eventsOpen = before.eventsOpen

namespace EventInv

variable {session : Session} {existing : Option (Nat × UInt16)} {stale : Bool}

/- A task that was never heard of has nothing to settle. -/
theorem settled_of_quiet (hInv : EventInv system) {phase : TaskPhase}
    (hTask : system.tasks[task]? = some phase) (hSession : phase.session = some session)
    (hUnannounced : phase.announced = false) (hEvents : next.events = system.events) :
    Settled next session := by
  intro record hConnected
  rw [hEvents] at hConnected
  exact absurd rfl (hInv.quiet task phase session hTask hSession hUnannounced _ hConnected)

theorem goesOn (hConn : ConnInv host system) (hInv : EventInv system) {action : TaskAction}
    {before : TaskPhase} (hTask : system.tasks[task]? = some before)
    (hGoes : GoesOn host system action task before after next)
    (hSucceeds : CallSucceeds host system action) : EventInv next := by
  have hIds := hGoes.table.same.lookup
  refine hInv.insertTask hConn before (fun _ => hTask) hGoes.moves.tasks
    hGoes.moves.sequence.ge hGoes.replaced.ge ?_ (hGoes.listening.trans hInv.listening) ?_ ?_ ?_ ?_
  · rcases hGoes.events with hSame | ⟨-, session, event, hBefore, hMore⟩
    · exact .nothing system before hSame
    · refine ⟨_, hMore, ?_⟩
      intro emission hEmission
      exact ⟨session, hBefore, by rw [List.mem_singleton.mp hEmission]⟩
  · intro peer connectionId hEntry
    exact Or.inl ((hIds peer).trans hEntry)
  · intro session hAfter
    rw [hIds, hGoes.replaced]
    exact hInv.current task before session hTask ((hGoes.registered hSucceeds).symm.trans hAfter)
  · intro hUnannounced session hAfter emission hEmission
    rcases hGoes.events with hEvents | ⟨hAnnounced, -⟩
    · rcases hGoes.announced with hAnnounced | hSame
      · rw [hAnnounced] at hUnannounced
        cases hUnannounced
      · rw [hEvents] at hEmission
        exact hInv.quiet task before session hTask (hGoes.session ▸ hAfter)
          (hSame ▸ hUnannounced) emission hEmission
    · rw [hAnnounced] at hUnannounced
      cases hUnannounced
  · intro session result hReturned
    rcases hGoes.reports hSucceeds hInv.listening session result hReturned
      with ⟨hQuiet, hEvents⟩ | hGone
    · refine hInv.settled_of_quiet hTask ?_ hQuiet hEvents
      rw [← hGoes.session, hReturned]
      rfl
    · exact fun _ _ => Or.inl hGone

/- The session of a task begins, with an id that no event carries. -/
theorem draw (hConn : ConnInv host system) (hInv : EventInv system) (task : Nat)
    (session : Session) (hId : session.connectionId = system.connectionSequence)
    (seenHellos : List (NodeId × Nonce)) : EventInv (NetSystem.setTask { system with
      seenHellos := seenHellos, connectionSequence := system.connectionSequence + 1 }
      task (.inspecting session)) := by
  refine hInv.insertTask hConn (.handshake true) (absurd rfl) rfl (Nat.le_succ _)
    (Finset.Subset.refl _) (.nothing system _ rfl) hInv.listening (fun _ _ => Or.inl)
    nofun ?_ (by simp)
  rintro - session ⟨⟩ emission hEmission
  have hLower := hInv.drawn emission hEmission
  omega

/- An open connection that gives way leaves a place free. -/
theorem not_tooManyConnections (hConn : ConnInv host system)
    (hDisplaces : displaces host system session existing stale = true) :
    tooManyConnections host (displace host system session existing stale) = false := by
  have hSender := hDisplaces
  rw [displaces, Bool.and_eq_true, senderOpen, Option.any_eq_true] at hSender
  rcases hSender with ⟨⟨connectionId, hSome, -⟩, -⟩
  have hLess := size_erase_lt hSome
  have hBounded := hConn.bounded
  rw [tooManyConnections, displace, hDisplaces]
  apply decide_eq_false
  change ¬ host.config.maxConnections ≤ (system.peers.senders.erase session.peer.nodeId).size
  omega

section

variable (system : NetSystem) (session : Session) (room : PeerState)

/-
  The new connection is the current one of its peer.  The one
  that was there before is replaced; the others are other
  peers' connections.
-/
theorem makeCurrent_kept
    (hRemoved : ∀ peer : NodeId, session.peer.nodeId ≠ peer → room.connectionIds[peer]? =
      system.peers.connectionIds[peer]?)
    (peer : NodeId) (connectionId : Nat)
    (hEntry : system.peers.connectionIds[peer]? = some connectionId) :
    (makeCurrent system session room).peers.connectionIds[peer]? = some connectionId ∨
      connectionId ∈ (makeCurrent system session room).replaced := by
  by_cases hPeer : session.peer.nodeId = peer
  · right
    unfold makeCurrent
    dsimp only
    rw [hPeer, hEntry]
    exact Finset.mem_insert_self _ _
  · left
    rw [ConnInv.makeCurrent_entry, if_neg hPeer, hRemoved peer hPeer]
    exact hEntry

theorem makeCurrent_replaced : system.replaced ⊆ (makeCurrent system session room).replaced := by
  unfold makeCurrent
  dsimp only
  split
  · exact Finset.Subset.refl _
  · exact Finset.subset_insert _ _

end

theorem displace_other {peer : NodeId} (hPeer : session.peer.nodeId ≠ peer) :
    (displace host system session existing stale).connectionIds[peer]? =
      system.peers.connectionIds[peer]? := by
  unfold displace
  split_ifs
  · exact (getElem?_erase _ _ _).trans (if_neg hPeer)
  · rfl

/- A task that fails to register returns unheard of. -/
theorem refuse (hConn : ConnInv host system) (hInv : EventInv system)
    (hTask : system.tasks[task]? = some (.registering session existing stale)) {peers : PeerState}
    (hSame : SameConnections system.peers peers) (closed : Finset Nat)
    (result : Except NetworkError Unit) :
    EventInv (NetSystem.finish { system with peers := peers, closed := closed } task session
      result) := by
  refine hInv.insertTask hConn _ (fun _ => hTask) rfl le_rfl (Finset.Subset.refl _)
    (.nothing system _ rfl) hInv.listening ?_ nofun nofun ?_
  · intro peer connectionId hEntry
    exact Or.inl ((hSame.lookup peer).trans hEntry)
  · rintro session' result' ⟨⟩
    exact hInv.settled_of_quiet hTask rfl rfl rfl

theorem displace_eq (hStays : displaces host system session existing stale ≠ true) :
    displace host system session existing stale = system.peers :=
  if_neg hStays

section

variable (hConn : ConnInv host system) (hInv : EventInv system)

include hConn hInv

theorem becomeCurrent (hTask : system.tasks[task]? = some (.registering session existing stale))
    (room : PeerState)
    (hOthers : ∀ peer : NodeId, session.peer.nodeId ≠ peer → room.connectionIds[peer]? =
      system.peers.connectionIds[peer]?) (closed : Finset Nat) :
    EventInv (NetSystem.setTask { makeCurrent system session room with closed := closed }
      task (.announcing session)) := by
  refine hInv.insertTask hConn _ (fun _ => hTask) rfl le_rfl
    (makeCurrent_replaced system session room) (.nothing system _ rfl) hInv.listening
    ?_ ?_ ?_ (by simp)
  · intro peer connectionId hEntry
    exact (makeCurrent_kept system session room hOthers peer connectionId hEntry).imp_right Or.inl
  · rintro session' ⟨⟩
    left
    change (makeCurrent system session room).peers.connectionIds[session.peer.nodeId]? = _
    rw [ConnInv.makeCurrent_entry, if_pos rfl]
  · rintro - session' ⟨⟩
    exact hInv.quiet task _ session hTask rfl rfl

theorem registerTask (env : CallEnv)
    (hTask : system.tasks[task]? = some (.registering session existing stale))
    (hSaved : env.saved = true) (hRoom : displaces host system session existing stale = true →
      (roomFor env.now (displace host system session existing stale)
        session.peer.nodeId).recordsFull session.peer.nodeId = false) :
    EventInv (Network.registerTask host env system task session existing stale) := by
  unfold Network.registerTask
  dsimp only
  split_ifs with hDuplicate hMany hFull
  · have hStays : displaces host system session existing stale ≠
      true := by
      rw [duplicate, Bool.and_eq_true] at hDuplicate
      intro hDisplaces
      rw [displaces, Bool.and_eq_true] at hDisplaces
      simp [hDisplaces.2] at hDuplicate
    rw [displace_eq hStays]
    exact hInv.refuse hConn hTask (refreshRecord_sameConnections _ _) _ _
  · have hStays : displaces host system session existing stale ≠
      true := by
      intro hDisplaces
      rw [not_tooManyConnections hConn hDisplaces] at hMany
      cases hMany
    rw [displace_eq hStays]
    exact hInv.refuse hConn hTask (.refl _) _ _
  · have hStays : displaces host system session existing stale ≠
      true := by
      intro hDisplaces
      rw [hRoom hDisplaces] at hFull
      cases hFull
    rw [displace_eq hStays]
    exact hInv.refuse hConn hTask (roomFor_sameConnections _ _ _) _ _
  · rcases closeDisplaced_eq with ⟨closed, hClosed⟩
    rw [hClosed]
    have hOthers : ∀ peer : NodeId, session.peer.nodeId ≠ peer →
      (roomFor env.now (displace host system session existing stale)
        session.peer.nodeId).connectionIds[peer]? = system.peers.connectionIds[peer]? := by
      intro peer hPeer
      rw [(roomFor_sameConnections _ _ _).connectionIds]
      exact displace_other hPeer
    exact hInv.becomeCurrent hConn hTask _ hOthers closed

theorem cleanupTask (hTask : system.tasks[task]? = some (.closing session)) :
    EventInv (Network.cleanupTask system task session) := by
  unfold Network.cleanupTask
  split_ifs with hCurrent
  · refine hInv.insertTask hConn _ (fun _ => hTask) rfl le_rfl (Finset.Subset.refl _)
      (.nothing system _ rfl) hInv.listening ?_ nofun nofun (by simp)
    intro peer connectionId hEntry
    by_cases hPeer : session.peer.nodeId = peer
    · rw [← hPeer, hCurrent] at hEntry
      exact Or.inr (Or.inr ⟨session, rfl, Option.some.inj hEntry⟩)
    · exact Or.inl (((getElem?_erase _ _ _).trans (if_neg hPeer)).trans hEntry)
  · refine hInv.insertTask hConn _ (fun _ => hTask) rfl le_rfl (Finset.Subset.refl _)
      (.nothing system _ rfl) hInv.listening (fun _ _ => Or.inl) nofun nofun ?_
    rintro session' result ⟨⟩ record -
    exact Or.inr ((hInv.current task _ session hTask rfl).resolve_left hCurrent)

end

section

variable (hInv : EventInv system)

include hInv

/- What happens around the tasks. -/
theorem outer (hSame : SameTable system next) (hEvents : next.events = system.events) :
    EventInv next := by
  rcases hSame with ⟨⟨hTasks, -, hSequence⟩, hIds, hReplaced, hOpen⟩
  refine ⟨?_, ?_, ?_, ?_, hOpen.trans hInv.listening⟩
  · intro task phase session hTask hRegistered
    rw [hTasks] at hTask
    rw [hIds, hReplaced]
    exact hInv.current task phase session hTask hRegistered
  · rw [hTasks, hEvents]
    exact hInv.quiet
  · unfold Settled
    rw [hTasks, hEvents, hReplaced]
    exact hInv.settled
  · rw [hEvents, hSequence]
    exact hInv.drawn

/- A peer that is not connected has nothing to lose. -/
theorem reconnectPeer (peer : NodeId) (hNone : system.peers.connectionIds[peer]? = none) :
    EventInv (Network.reconnectPeer system peer) := by
  have hIds : ∀ other : NodeId, (system.peers.unregister peer).connectionIds[other]? =
    system.peers.connectionIds[other]? := by
    intro other
    rw [PeerState.unregister, getElem?_erase]
    split_ifs with hSame
    · rw [← hSame]
      exact hNone.symm
    · rfl
  unfold Network.reconnectPeer
  split
  · exact hInv.outer ⟨⟨rfl, rfl, rfl⟩, hIds, rfl, rfl⟩ rfl
  · split_ifs
    · exact hInv.outer ⟨⟨rfl, rfl, rfl⟩, hIds, rfl, rfl⟩ rfl
    · exact hInv.outer ⟨⟨rfl, rfl, rfl⟩, hIds, rfl, rfl⟩ rfl

theorem outerStep (hConn : ConnInv host system) (action : TaskAction)
    (hKeeps : KeepsCurrent host system action)
    (hStep : Network.outerStep system action = some next) : EventInv next := by
  unfold Network.outerStep at hStep
  split at hStep
  · cases hStep
    exact hInv.insertTask hConn (.handshake true) (absurd rfl) rfl le_rfl (Finset.Subset.refl _)
      (.nothing system _ rfl) hInv.listening (fun _ _ => Or.inl) nofun nofun (by simp)
  · cases hStep
    exact hInv.outer ⟨⟨rfl, rfl, rfl⟩, fun _ => rfl, rfl, rfl⟩ rfl
  · cases hStep
    exact hInv.outer ⟨⟨rfl, rfl, rfl⟩, fun _ => rfl, rfl, rfl⟩ rfl
  · cases hStep
    exact hInv.reconnectPeer _ hKeeps
  · cases hStep
    exact hInv.outer ⟨⟨rfl, rfl, rfl⟩, fun _ => rfl, rfl, rfl⟩ rfl
  · exact hKeeps.elim
  · cases hStep

end

theorem step (hConn : ConnInv host system) (hInv : EventInv system) (action : TaskAction)
    (hSucceeds : CallSucceeds host system action) (hKeeps : KeepsCurrent host system action)
    (hStep : taskStep host system action = some next) : EventInv next := by
  rcases taskStep_cases hStep with hOuter | ⟨task, phase, hTask, hEffect⟩
  · exact hInv.outerStep hConn action hKeeps hOuter
  · cases hEffect with
    | goesOn hGoes => exact hInv.goesOn hConn hTask hGoes hSucceeds
    | draws outbound session seenHellos hId => exact hInv.draw hConn task session hId seenHellos
    | registers session existing stale env hAction =>
      subst hAction
      refine hInv.registerTask hConn env hTask hSucceeds (hKeeps (_, _, _) ?_)
      rw [nextRegistration, hTask]
      rfl
    | cleans session => exact hInv.cleanupTask hConn hTask

end EventInv

----
-- What Is Left of a Connection
----

/-
  A task that has returned leaves no entry in the table, in
  every run in which no call fails after a registration.  If
  also no connection leaves the table without a replacement,
  the task has reported its peer as disconnected, or its
  connection was replaced.
-/
theorem returned_clean (host : Host) (known : PeerState) (actions : List TaskAction)
    (final : NetSystem) (task : Nat) (session : Session) (result : Except NetworkError Unit)
    (hSucceeds : Meets (taskStep host) (CallSucceeds host) (NetSystem.initial known) actions)
    (hRun : run (taskStep host) (NetSystem.initial known) actions = some final)
    (hReturned : final.tasks[task]? = some (.returned (some session) result)) :
    NoEntries final.peers session.connectionId ∧
      (Meets (taskStep host) (KeepsCurrent host) (NetSystem.initial known) actions →
        Settled final session) := by
  constructor
  · have hInv : ConnInv host final := invariant_of_run (ConnInv host)
      (fun system action next hInv hCall hStep =>
        hInv.step action hCall hStep)
      (.initial host known) hSucceeds hRun
    exact hInv.noEntries hReturned rfl rfl
  · intro hKeeps
    have hInv : ConnInv host final ∧ EventInv final := invariant_of_run
      (fun system => ConnInv host system ∧ EventInv system)
      (fun system action next hInv hCond hStep =>
        ⟨hInv.1.step action hCond.1 hStep, hInv.2.step hInv.1 action hCond.1 hCond.2 hStep⟩)
      ⟨.initial host known, .initial known⟩
      (meets_and hSucceeds hKeeps) hRun
    exact hInv.2.settled task session result hReturned

/- Signatures verify, and keys are their own hashes. -/
def smallHost : Host where
  node := ⟨1⟩
  config := ⟨8, 600, true, 4⟩
  hashing := ⟨fun key => ⟨key⟩, fun _ => ⟨0⟩⟩
  signing :=
    { verify := fun _ _ _ => true
      helloBytes := fun _ _ _ => .ok []
      recordBytes := fun _ => some []
      addressBytes := fun _ _ _ => some []
      rotationBytes := fun _ => some [] }
  parse := fun _ => some ⟨.v4 0x0a000002#32, 4000⟩

def noPeers : PeerState :=
  ⟨∅, ∅, ∅, ∅, ∅, ∅, ∅, ∅, ∅⟩

/- Node 2, announced at time 100. -/
def smallRecord (expiresAt : UInt64) : PeerRecord :=
  ⟨⟨2⟩, 2, [], [], 100, expiresAt, none⟩

def smallHello : Hello where
  nonce := 7
  supported := ⟨1, 0, 6⟩
  record := smallRecord 700
  signature := List.replicate 64 0

def calmWork : WorkEnv := ⟨⟨100, true⟩, .ok (), true⟩

/- Node 1 dials node 2, up to the first message. -/
def connectActions : List TaskAction :=
  [.accept true, .hello 0 ⟨100, .ok (.hello smallHello), .ok ()⟩,
    .inspect 0, .probe 0 true, .register 0 ⟨100, true⟩,
    .announce 0 false, .greet 0 calmWork, .greet 0 calmWork, .greet 0 calmWork]

def smallSession : Session :=
  ⟨smallRecord 700, 6, true, 0⟩

/- Node 2 takes its leave. -/
def goodbyeActions : List TaskAction :=
  connectActions ++ [.read 0 (.direct (.goodbye none)), .cleanup 0, .leave 0]

theorem goodbyeActions_isSome :
    (run (taskStep smallHost) (NetSystem.initial noPeers) goodbyeActions).isSome := by
  decide +kernel

theorem returned_clean_goodbye : ∃ final, run (taskStep smallHost)
    (NetSystem.initial noPeers) goodbyeActions = some final ∧ NoEntries final.peers 0 ∧
    Settled final smallSession := by
  refine ⟨Option.get _ goodbyeActions_isSome, (Option.some_get goodbyeActions_isSome).symm, ?_⟩
  have hClean := returned_clean smallHost noPeers goodbyeActions _ 0
    smallSession (.ok ()) (by decide +kernel)
    (Option.some_get goodbyeActions_isSome).symm (by rfl)
  exact ⟨hClean.1, hClean.2 (by decide +kernel)⟩

/-
  Node 2 announces itself with a lifetime that is too long.
  The call that would learn it fails, the task returns, and
  its connection stays in the table for good.
-/
def overlongActions : List TaskAction :=
  connectActions ++
    [.read 0 (.direct (.announcement ⟨smallRecord 5000, List.replicate 64 0⟩)), .work 0 calmWork]

theorem overlongActions_isSome :
    (run (taskStep smallHost) (NetSystem.initial noPeers) overlongActions).isSome := by
  decide +kernel

theorem returned_unclean : ∃ final result, run (taskStep smallHost)
    (NetSystem.initial noPeers) overlongActions = some final ∧
    final.tasks[0]? = some (.returned (some smallSession) result) ∧
    final.peers.senders[(⟨2⟩ : NodeId)]? = some 0 ∧
    ¬ NoEntries final.peers smallSession.connectionId ∧ ¬ Settled final smallSession := by
  refine ⟨Option.get _ overlongActions_isSome,
    .error (.peerProtocol "peer announcement has an invalid lifetime"),
    (Option.some_get overlongActions_isSome).symm, by rfl,
    by rfl, ?_, ?_⟩
  · intro hNone
    exact hNone.senders ⟨2⟩ rfl
  · have hEvents : (Option.get _ overlongActions_isSome).events =
      [⟨0, .peerConnected (smallRecord 700)⟩] := by
      rfl
    have hReplaced : (Option.get _ overlongActions_isSome).replaced = ∅ := by
      rfl
    intro hSettled
    rcases hSettled (smallRecord 700) (by
      exact List.mem_singleton_self _) with hGone | hGone
    · rw [hEvents, List.mem_singleton] at hGone
      cases hGone
    · exact Finset.notMem_empty _ hGone

end IntelligenceNetwork.Network
