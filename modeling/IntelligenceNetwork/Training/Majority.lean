import IntelligenceNetwork.Lib.Quorum
import IntelligenceNetwork.Training.Broadcast
import IntelligenceNetwork.Training.Frame
import IntelligenceNetwork.Training.Job

/-
  Whether an acknowledged broadcast reached a majority.

  A coordinator may conclude that it and every node whose
  acknowledgement it read have applied what it sent.

  Main declarations:
    * `CheckpointCounts`
    * `StateCounts`
    * `broadcast_majority_iff`
-/

----
-- Who Applied the Broadcast
----

namespace IntelligenceNetwork.Training

open Transition

variable {arrival : Arrival} {after before : Context} {final : Wait}

open Quorum (StrictMajority)

/- The coordinator and the participants it has not lost. -/
def liveSet (node : NodeId) (context : Context) : Finset NodeId :=
  insert node (liveParticipants context)

/-
  The coordinator has applied what it sends, and a peer
  acknowledges only what it has applied.
-/
def Honest (node : NodeId) (acknowledges : NodeId → TrainingAck → Bool) (events : List Arrival)
    (applied : Finset NodeId) : Prop :=
  node ∈ applied ∧ ∀ arrival ∈ events, ∀ peer ack, arrival.event = .message peer (.ack ack) →
    acknowledges peer ack = true → peer ∈ applied

section

variable (acknowledges : NodeId → TrainingAck → Bool)

def ackSender (arrival : Arrival) : Option NodeId :=
  match arrival.event with
  | .message peer (.ack ack) => if acknowledges peer ack then some peer else none
  | _ => none

def senders (events : List Arrival) : Finset NodeId :=
  (events.filterMap (ackSender acknowledges)).toFinset

theorem ackSender_eq_some_iff {peer : NodeId} :
    ackSender acknowledges arrival = some peer ↔ ∃ ack, arrival.event = .message peer (.ack ack) ∧
      acknowledges peer ack = true := by
  unfold ackSender
  split
  · rename_i sender ack hEvent
    rw [hEvent]
    constructor
    · intro hSome
      split_ifs at hSome with hAck
      cases hSome
      exact ⟨ack, rfl, hAck⟩
    · rintro ⟨ack', hSame, hAck⟩
      cases hSame
      rw [if_pos hAck]
  · rename_i hOther
    constructor
    · intro hSome
      cases hSome
    · rintro ⟨ack, hEvent, -⟩
      exact absurd hEvent (hOther peer ack)

theorem mem_senders_cons_iff (arrival : Arrival) (events : List Arrival) (peer : NodeId) :
    peer ∈ senders acknowledges (arrival :: events) ↔ ackSender acknowledges arrival = some peer ∨
      peer ∈ senders acknowledges events := by
  simp only [senders, List.mem_toFinset, List.mem_filterMap, List.mem_cons, exists_eq_or_imp]

end

section

variable (node : NodeId) (acknowledges : NodeId → TrainingAck → Bool) (events : List Arrival)

/- The nodes known to have applied are all that is assumed. -/
theorem honest_iff {applied : Finset NodeId} :
    Honest node acknowledges events applied ↔ insert node (senders acknowledges events) ⊆
      applied := by
  rw [Finset.insert_subset_iff]
  refine and_congr_right (fun _ => ?_)
  constructor
  · intro hHonest peer hPeer
    rw [senders, List.mem_toFinset, List.mem_filterMap] at hPeer
    rcases hPeer with ⟨arrival, hMem, hSender⟩
    rcases (ackSender_eq_some_iff acknowledges).mp hSender with ⟨ack, hEvent, hAck⟩
    exact hHonest arrival hMem peer ack hEvent hAck
  · intro hSubset arrival hMem peer ack hEvent hAck
    apply hSubset
    rw [senders, List.mem_toFinset, List.mem_filterMap]
    exact ⟨arrival, hMem, (ackSender_eq_some_iff acknowledges).mpr ⟨ack, hEvent, hAck⟩⟩

theorem forall_honest_majority_iff (whole : Finset NodeId) :
    (∀ applied, Honest node acknowledges events applied → StrictMajority applied whole) ↔
      StrictMajority (insert node (senders acknowledges events)) whole := by
  constructor
  · intro hAll
    exact hAll _ ((honest_iff node acknowledges events).mpr (Finset.Subset.refl _))
  · intro hMajority applied hHonest
    exact hMajority.mono ((honest_iff node acknowledges events).mp hHonest)

end

----
-- Restoring Peers
----

theorem mem_liveParticipants_iff (context : Context) (peer : NodeId) :
    peer ∈ liveParticipants context ↔ peer ∈ context.start.participants ∧
      peer ∉ context.failed := by
  simp [liveParticipants]

/- Whether the disconnect of a peer is survived. -/
def peerRestored (context : Context) (arrival : Arrival) (peer : NodeId) : Bool :=
  (restoreTrainingPeer arrival.connected arrival.reconnected context peer).2

/- Bookkeeping does not change the answer. -/
theorem OnlyBookkeeping.peerRestored_eq (hOnly : OnlyBookkeeping before after) (arrival : Arrival)
    (peer : NodeId) : peerRestored after arrival peer = peerRestored before arrival peer := by
  rcases hOnly with ⟨_, _, _, _, _, rfl⟩
  unfold peerRestored restoreTrainingPeer
  split_ifs
  · rfl
  · rfl
  · rfl

section

variable (context : Context) (arrival : Arrival) (peer : NodeId)

theorem restoreTrainingPeer_of_restored (hRestored : peerRestored context arrival peer = true) :
    (restoreTrainingPeer arrival.connected arrival.reconnected context peer).1 =
      { context with failed := context.failed.erase peer } := by
  unfold peerRestored at hRestored
  unfold restoreTrainingPeer at hRestored ⊢
  split_ifs at hRestored ⊢
  · rfl

end

----
-- The Events of a Wait
----

section

variable (acknowledges : NodeId → TrainingAck → Bool) (message : TrainingMessage)
variable (lose : NodeId → Finset NodeId) (wait : Wait) (arrival : Arrival)

/-
  What one event does to a wait.  Who acknowledges is counted,
  and an expected peer that is gone is brought back, or lost;
  every other event is passed over.
-/
inductive WaitMove : Wait → Prop
  | counted {peer : NodeId} (hAck : ackSender acknowledges arrival = some peer) :
    WaitMove { wait with acks := insert peer wait.acks }
  | restored {peer : NodeId} (hEvent : arrival.event = .peerDisconnected peer)
    (hExpected : peer ∈ wait.expected) (hRestored : peerRestored wait.context arrival peer = true) :
    WaitMove (wait.restored { wait.context with failed := wait.context.failed.erase peer } peer
      message)
  | lost {peer : NodeId} (hEvent : arrival.event = .peerDisconnected peer)
    (hExpected : peer ∈ wait.expected) (hLost : peerRestored wait.context arrival peer = false) :
    WaitMove { wait with context := wait.context.fail peer, expected := lose peer }
  | passed (hNone : ackSender acknowledges arrival = none)
    (hOther : ∀ peer ∈ wait.expected, arrival.event ≠ .peerDisconnected peer) : WaitMove wait

/- Both waits answer a disconnect in the same way. -/
theorem disconnected_move {peer : NodeId} (hEvent : arrival.event = .peerDisconnected peer) :
    WaitMove acknowledges message lose wait arrival
      (if peer ∈ wait.expected then
        let restored := restoreTrainingPeer arrival.connected arrival.reconnected wait.context peer
        if restored.2 then
          wait.restored restored.1 peer message
        else
          { wait with context := restored.1.fail peer, expected := lose peer }
      else
        wait) := by
  dsimp only
  split_ifs with hExpected hRestored
  · rw [restoreTrainingPeer_of_restored wait.context arrival peer hRestored]
    exact .restored hEvent hExpected hRestored
  · rw [Bool.not_eq_true] at hRestored
    rw [restoreTrainingPeer_lost hRestored]
    exact .lost hEvent hExpected hRestored
  · refine .passed (by simp [ackSender, hEvent]) ?_
    rintro other hOther hSame
    cases hEvent.symm.trans hSame
    exact hExpected hOther

theorem other_move (hNoAck : ∀ peer ack, arrival.event ≠ .message peer (.ack ack))
    (hNoPeer : ∀ peer, arrival.event ≠ .peerDisconnected peer) :
    WaitMove acknowledges message lose wait arrival wait := by
  refine .passed ?_ (fun peer _ => hNoPeer peer)
  unfold ackSender
  split
  · rename_i peer ack hEvent
    exact absurd hEvent (hNoAck peer ack)
  · rfl

end

namespace WaitMove

variable {acknowledges : NodeId → TrainingAck → Bool} {message : TrainingMessage}
variable {lose : NodeId → Finset NodeId} {wait next : Wait}
variable (hMove : WaitMove acknowledges message lose wait arrival next)
include hMove

theorem bookkeeping : OnlyBookkeeping wait.context next.context := by
  cases hMove with
  | counted | passed => exact .refl wait.context
  | restored => exact ⟨_, _, _, _, _, rfl⟩
  | lost => exact .fail _ _

theorem mem_acks_iff (peer : NodeId) :
    peer ∈ next.acks ↔ peer ∈ wait.acks ∨ ackSender acknowledges arrival = some peer := by
  cases hMove with
  | counted hAck => rw [hAck, Finset.mem_insert, Option.some.injEq, or_comm, eq_comm]
  | restored hEvent | lost hEvent => simp [ackSender, hEvent, Wait.restored]
  | passed hNone => simp [hNone]

theorem card_acks_le : next.acks.card ≤ wait.acks.card + 1 := by
  cases hMove with
  | counted => exact Finset.card_insert_le _ _
  | restored | lost | passed => exact Nat.le_succ _

/- What a wait sends is its message, to one peer or another. -/
theorem sends {effect : Effect} (hMem : effect ∈ next.effects) :
    effect ∈ wait.effects ∨ ∃ target, effect = .sent target message := by
  cases hMove with
  | @restored peer =>
    rcases List.mem_append.mp hMem with hOld | hNew
    · exact Or.inl hOld
    · exact Or.inr ⟨peer, List.mem_singleton.mp hNew⟩
  | counted | lost | passed => exact Or.inl hMem

end WaitMove

----
-- A Checkpoint's Whole Wait
----

/- The event takes the peer away for good. -/
def lostAt (context : Context) (arrival : Arrival) (peer : NodeId) : Bool :=
  arrival.event == .peerDisconnected peer && !peerRestored context arrival peer

section

variable (commit : TrainingCheckpointCommit) (wait : Wait) (arrival : Arrival)

/- Only the acknowledgements of expected peers are counted. -/
theorem checkpointEvent_move :
    WaitMove (fun peer ack => checkpointAck commit peer ack && decide (peer ∈ wait.expected))
      (.checkpointCommit commit) wait.expected.erase wait arrival
      (checkpointEvent commit wait arrival) := by
  unfold checkpointEvent
  split
  · rename_i peer ack hEvent
    split_ifs with hCounts
    · exact .counted (by simp [ackSender, hEvent, hCounts])
    · exact .passed (by simpa [ackSender, hEvent] using hCounts) (by simp [hEvent])
  · rename_i peer hEvent
    exact disconnected_move _ _ _ wait arrival hEvent
  · rename_i hNoAck hNoPeer
    exact other_move _ _ _ wait arrival hNoAck hNoPeer

theorem mem_acks_checkpointEvent_iff (peer : NodeId) :
    peer ∈ (checkpointEvent commit wait arrival).acks ↔ peer ∈ wait.acks ∨
      ackSender (checkpointAck commit) arrival = some peer ∧ peer ∈ wait.expected := by
  rw [(checkpointEvent_move commit wait arrival).mem_acks_iff]
  simp only [ackSender_eq_some_iff, Bool.and_eq_true, decide_eq_true_eq, ← and_assoc,
    exists_and_right]

theorem mem_expected_checkpointEvent_iff (peer : NodeId) :
    peer ∈ (checkpointEvent commit wait arrival).expected ↔ peer ∈ wait.expected ∧
      lostAt wait.context arrival peer = false := by
  have hMove := checkpointEvent_move commit wait arrival
  generalize checkpointEvent commit wait arrival = next at hMove ⊢
  cases hMove with
  | counted hAck =>
    rcases (ackSender_eq_some_iff _).mp hAck with ⟨ack, hEvent, -⟩
    simp [lostAt, hEvent]
  | @restored lost hEvent _ hRestored =>
    by_cases hSame : lost = peer
    · subst hSame
      simp [lostAt, hRestored, Wait.restored]
    · simp [lostAt, hEvent, hSame, Wait.restored]
  | @lost lost hEvent _ hLost =>
    by_cases hSame : lost = peer
    · subst hSame
      simp [lostAt, hEvent, hLost]
    · simp [lostAt, hEvent, hSame, Ne.symm hSame]
  | passed _ hOther =>
    refine (and_iff_left_of_imp fun hExpected => ?_).symm
    simp [lostAt, hOther peer hExpected]

/-
  Who is expected is who is live: a peer leaves both together,
  and an expected peer that is restored was not marked failed.
-/
theorem checkpointEvent_expected (hExpected : wait.expected = liveParticipants wait.context) :
    (checkpointEvent commit wait arrival).expected = liveParticipants
      (checkpointEvent commit wait arrival).context := by
  have hMove := checkpointEvent_move commit wait arrival
  generalize checkpointEvent commit wait arrival = next at hMove ⊢
  cases hMove with
  | counted | passed => exact hExpected
  | restored _ hIn =>
    rw [hExpected, mem_liveParticipants_iff] at hIn
    rw [Wait.restored, Finset.erase_eq_of_notMem hIn.2]
    exact hExpected
  | lost =>
    dsimp only
    rw [hExpected]
    ext peer
    simp only [Finset.mem_erase, mem_liveParticipants_iff, Context.fail, Finset.mem_insert, not_or]
    tauto

end

/- Some event of the wait takes the peer away. -/
def everLost (context : Context) (events : List Arrival) (peer : NodeId) : Bool :=
  events.any (fun arrival => lostAt context arrival peer)

theorem OnlyBookkeeping.everLost_eq (hOnly : OnlyBookkeeping before after) (events : List Arrival)
    (peer : NodeId) : everLost after events peer = everLost before events peer := by
  simp only [everLost, lostAt, hOnly.peerRestored_eq]

section

variable (commit : TrainingCheckpointCommit)

/- A step of the wait handles its event. -/
theorem checkpointStep_eq_some_iff {wait next : Wait} {arrival : Arrival} :
    checkpointStep commit wait arrival = some next ↔ checkpointDone wait = false ∧
      checkpointEvent commit wait arrival = next := by
  unfold checkpointStep
  split_ifs with hDone
  · simp [hDone]
  · simp [hDone]

variable (wait final : Wait) (events : List Arrival)
variable (hRun : run (checkpointStep commit) wait events = some final) (peer : NodeId)
include hRun

/- Who is still expected at the end of the wait. -/
theorem checkpoint_run_expected :
    peer ∈ final.expected ↔ peer ∈ wait.expected ∧ everLost wait.context events peer = false := by
  induction events generalizing wait with
  | nil =>
    cases hRun
    simp [everLost]
  | cons arrival events ih =>
    rcases run_cons_eq_some_iff.mp hRun with ⟨next, hNext, hRest⟩
    rcases (checkpointStep_eq_some_iff commit).mp hNext with ⟨-, rfl⟩
    have hOnly := (checkpointEvent_move commit wait arrival).bookkeeping
    rw [ih _ hRest, mem_expected_checkpointEvent_iff, hOnly.everLost_eq, everLost, everLost,
      List.any_cons, Bool.or_eq_false_iff, and_assoc]

/- Acknowledgements are kept, and come from their senders. -/
theorem checkpoint_run_acks :
    (peer ∈ final.acks → peer ∈ wait.acks ∨ peer ∈ senders (checkpointAck commit) events) ∧
      (peer ∈ wait.acks → peer ∈ final.acks) ∧
      (peer ∈ final.expected → peer ∈ senders (checkpointAck commit) events →
        peer ∈ final.acks) := by
  induction events generalizing wait with
  | nil =>
    cases hRun
    simp [senders]
  | cons arrival events ih =>
    rcases run_cons_eq_some_iff.mp hRun with ⟨next, hNext, hRest⟩
    rcases (checkpointStep_eq_some_iff commit).mp hNext with ⟨-, rfl⟩
    rcases ih _ hRest with ⟨hFrom, hKept, hCounted⟩
    have hExpected := checkpoint_run_expected commit wait final (arrival :: events) hRun peer
    rw [mem_acks_checkpointEvent_iff] at hFrom hKept
    rw [mem_senders_cons_iff]
    refine ⟨?_, fun hOld => hKept (Or.inl hOld), ?_⟩
    · intro hFinal
      rcases hFrom hFinal with (hOld | ⟨hNew, -⟩) | hLater
      · exact Or.inl hOld
      · exact Or.inr (Or.inl hNew)
      · exact Or.inr (Or.inr hLater)
    · rintro hFinal (hNow | hLater)
      · exact hKept (Or.inr ⟨hNow, (hExpected.mp hFinal).1⟩)
      · exact hCounted hFinal hLater

end

/-
  There are never more acknowledgements than are required: a
  step is only taken while there are fewer, and losing a peer
  lowers the requirement by at most one.
-/
structure CheckpointInv (wait : Wait) : Prop where
  expected : wait.expected = liveParticipants wait.context
  acks : wait.acks.card ≤ requiredAcks wait.expected.card

theorem requiredAcks_eq (participants : Nat) :
    requiredAcks participants = (participants + 1) / 2 := by
  unfold requiredAcks quorum
  omega

section

variable (node : NodeId) (context : Context) (commit : TrainingCheckpointCommit)

theorem checkpointInv_init : CheckpointInv (checkpointWait node context commit) := by
  refine ⟨rfl, ?_⟩
  simp only [checkpointWait, requiredAcks_eq]
  split_ifs with hNode
  · have hPos : 0 < (liveParticipants context).card := Finset.card_pos.mpr ⟨node, hNode⟩
    rw [Finset.card_singleton]
    omega
  · simp

section

variable {commit : TrainingCheckpointCommit} {wait next : Wait}

theorem CheckpointInv.step (hInv : CheckpointInv wait)
    (hStep : checkpointStep commit wait arrival = some next) : CheckpointInv next := by
  rcases (checkpointStep_eq_some_iff commit).mp hStep with ⟨hDone, rfl⟩
  refine ⟨checkpointEvent_expected commit wait arrival hInv.expected, ?_⟩
  have hFewer : wait.acks.card < (wait.expected.card + 1) / 2 := by
    simpa [checkpointDone, requiredAcks_eq] using hDone
  rw [requiredAcks_eq]
  have hMove := checkpointEvent_move commit wait arrival
  generalize checkpointEvent commit wait arrival = next at hMove ⊢
  cases hMove with
  | @counted peer =>
    have hInsert := Finset.card_insert_le peer wait.acks
    dsimp only
    omega
  | lost _ hExpected =>
    simp only [Finset.card_erase_of_mem hExpected]
    omega
  | restored | passed => exact Nat.le_of_lt hFewer

/- No peer is lost after its acknowledgement was counted. -/
def KeepsAcks (wait : Wait) (arrival : Arrival) : Prop :=
  ∀ peer ∈ wait.acks, lostAt wait.context arrival peer = false

theorem acks_subset_step (hSubset : wait.acks ⊆ wait.expected) (hKeeps : KeepsAcks wait arrival)
    (hStep : checkpointStep commit wait arrival = some next) : next.acks ⊆ next.expected := by
  rcases (checkpointStep_eq_some_iff commit).mp hStep with ⟨-, rfl⟩
  intro peer hPeer
  rw [mem_expected_checkpointEvent_iff]
  rcases (mem_acks_checkpointEvent_iff commit wait arrival
    peer).mp hPeer with hOld | ⟨hNow, hExpected⟩
  · exact ⟨hSubset hOld, hKeeps peer hOld⟩
  · refine ⟨hExpected, ?_⟩
    rcases (ackSender_eq_some_iff _).mp hNow with ⟨ack, hEvent, -⟩
    simp [lostAt, hEvent]

end

/-
  The acknowledgements that were counted are still expected
  at the end exactly when none of them was lost on the way.
-/
theorem acks_subset_iff (events : List Arrival) (final : Wait)
    (hRun : run (checkpointStep commit) (checkpointWait node context commit) events = some final) :
    final.acks ⊆ final.expected ↔ Meets (checkpointStep commit) KeepsAcks
      (checkpointWait node context commit) events := by
  constructor
  · intro hSubset
    apply meets_of_forall_moment
    intro earlier arrival later middle hSplit hMiddle
    subst hSplit
    rcases run_append_eq_some_iff.mp hRun with ⟨same, hSame, hRest⟩
    rw [hMiddle] at hSame
    cases hSame
    intro peer hPeer
    have hFinal := (checkpoint_run_acks commit middle final _ hRest peer).2.1 hPeer
    have hNever :=
      ((checkpoint_run_expected commit middle final _ hRest peer).mp (hSubset hFinal)).2
    rw [everLost, List.any_cons, Bool.or_eq_false_iff] at hNever
    exact hNever.1
  · intro hKeeps
    refine invariant_of_run (fun wait : Wait => wait.acks ⊆ wait.expected)
      (fun _ _ _ => acks_subset_step) ?_ hKeeps hRun
    intro peer hPeer
    simp only [checkpointWait] at hPeer ⊢
    split_ifs at hPeer with hNode
    · rw [Finset.mem_singleton.mp hPeer]
      exact hNode
    · cases hPeer

def neverLost (context : Context) (events : List Arrival) : Finset NodeId :=
  (liveParticipants context).filter (fun peer => everLost context events peer = false)

variable (events : List Arrival)

/-
  The count of a checkpoint's acknowledgements is right: none
  of them is lost again, and the coordinator, which is counted
  on its own, is not one of an even number of participants
  that stay.
-/
def CheckpointCounts : Prop :=
  Meets (checkpointStep commit) KeepsAcks (checkpointWait node context commit) events ∧
    ¬ (node ∈ neverLost context events ∧ Even (neverLost context events).card)

theorem checkpoint_majority_iff
    (hRun : run (checkpointStep commit) (checkpointWait node context commit) events =
      some final) (hDone : checkpointDone final = true) :
    (∀ applied, Honest node (checkpointAck commit) events applied → StrictMajority applied
      (liveSet node final.context)) ↔
      CheckpointCounts node context commit events := by
  have hInv : CheckpointInv final := always_of_run CheckpointInv
    (fun _ _ _ hInv hStep => hInv.step hStep) (checkpointInv_init node context commit) hRun
  have hExpected := checkpoint_run_expected commit _ final events hRun
  have hAcks := checkpoint_run_acks commit _ final events hRun
  have hStays : final.expected = neverLost context events := by
    ext peer
    rw [hExpected peer, neverLost, Finset.mem_filter]
    rfl
  have hCard : final.acks.card = (final.expected.card + 1) / 2 := by
    have hEnough : requiredAcks final.expected.card ≤ final.acks.card := by
      simpa [checkpointDone] using hDone
    have hAtMost := hInv.acks
    rw [requiredAcks_eq] at hEnough hAtMost
    omega
  have hNode : node ∈ final.expected → node ∈ final.acks := by
    intro hIn
    apply (hAcks node).2.1
    have hInitial : node ∈ liveParticipants context := ((hExpected node).mp hIn).1
    simp [checkpointWait, hInitial]
  -- among the live nodes, the counted ones are the senders
  have hCounted : ∀ peer ∈ insert node final.expected, peer ∈ insert node
    (senders (checkpointAck commit) events) ↔ peer ∈ insert node final.acks := by
    intro peer hPeer
    rw [Finset.mem_insert] at hPeer
    rw [Finset.mem_insert, Finset.mem_insert]
    constructor
    · rintro (hSelf | hSent)
      · exact Or.inl hSelf
      · rcases hPeer with hSelf | hIn
        · exact Or.inl hSelf
        · exact Or.inr ((hAcks peer).2.2 hIn hSent)
    · rintro (hSelf | hAck)
      · exact Or.inl hSelf
      · rcases (hAcks peer).1 hAck with hFirst | hSent
        · left
          simp only [checkpointWait] at hFirst
          split_ifs at hFirst
          · exact Finset.mem_singleton.mp hFirst
          · cases hFirst
        · exact Or.inr hSent
  rw [forall_honest_majority_iff, liveSet, ← hInv.expected, StrictMajority.congr hCounted,
    Quorum.strictMajority_insert_iff hNode hCard,
    acks_subset_iff node context commit events final hRun, hStays]
  rfl

end

----
-- A State's Whole Wait
----

/-
  Whether a peer counts as lost after some events.  While a
  state is broadcast, a lost peer may come back.
-/
def lostAfter (context : Context) (peer : NodeId) (before : Bool) (events : List Arrival) : Bool :=
  events.foldl (fun lost arrival =>
    if arrival.event = .peerDisconnected peer then !peerRestored context arrival peer else lost)
    before

theorem OnlyBookkeeping.lostAfter_eq (hOnly : OnlyBookkeeping before after) (peer : NodeId)
    (lost : Bool) (events : List Arrival) :
    lostAfter after peer lost events = lostAfter before peer lost events := by
  simp only [lostAfter, hOnly.peerRestored_eq]

section

variable (state : TrainingState) (wait : Wait) (arrival : Arrival)

theorem stateEvent_move :
    WaitMove (stateAck state) (.state state) (fun _ => wait.expected) wait arrival
      (stateEvent state wait arrival) := by
  unfold stateEvent
  split
  · rename_i peer ack hEvent
    split_ifs with hCounts
    · exact .counted (by simp [ackSender, hEvent, hCounts])
    · exact .passed (by simp [ackSender, hEvent, hCounts]) (by simp [hEvent])
  · rename_i peer hEvent
    exact disconnected_move _ _ _ wait arrival hEvent
  · rename_i hNoAck hNoPeer
    exact other_move _ _ _ wait arrival hNoAck hNoPeer

theorem stateEvent_expected : (stateEvent state wait arrival).expected = wait.expected := by
  have hMove := stateEvent_move state wait arrival
  generalize stateEvent state wait arrival = next at hMove ⊢
  cases hMove with
  | counted | restored | lost | passed => rfl

/-
  One event moves the mark of the peer it is about, if that
  peer was expected, and no other mark.
-/
theorem mem_failed_stateEvent_iff (peer : NodeId) :
    peer ∈ (stateEvent state wait arrival).context.failed ↔
      if peer ∈ wait.expected then
        lostAfter wait.context peer (decide (peer ∈ wait.context.failed)) [arrival] = true
      else
        peer ∈ wait.context.failed := by
  simp only [lostAfter, List.foldl_cons, List.foldl_nil]
  have hMove := stateEvent_move state wait arrival
  generalize stateEvent state wait arrival = next at hMove ⊢
  cases hMove with
  | counted hAck =>
    rcases (ackSender_eq_some_iff _).mp hAck with ⟨ack, hEvent, -⟩
    simp [hEvent]
  | @restored lost hEvent hExpected hRestored =>
    by_cases hSame : lost = peer
    · subst hSame
      simp [hEvent, hExpected, hRestored, Wait.restored]
    · simp [hEvent, hSame, Ne.symm hSame, Wait.restored]
  | @lost lost hEvent hExpected hLost =>
    by_cases hSame : lost = peer
    · subst hSame
      simp [hEvent, hExpected, hLost, Context.fail]
    · simp [hEvent, hSame, Ne.symm hSame, Context.fail]
  | passed _ hOther =>
    by_cases hExpected : peer ∈ wait.expected
    · simp [hExpected, hOther peer hExpected]
    · simp [hExpected]

end

theorem stateStep_eq_some_iff {state : TrainingState} {wait next : Wait} {arrival : Arrival} :
    stateStep state wait arrival = some next ↔
      (stateDone wait = false ∧ newerElection wait.context arrival = none) ∧
        stateEvent state wait arrival = next := by
  unfold stateStep
  split_ifs with hEnds
  · constructor
    · intro hSome
      cases hSome
    · rintro ⟨⟨hDone, hNone⟩, -⟩
      simp [hDone, hNone] at hEnds
  · rw [not_or, Bool.not_eq_true, Option.not_isSome_iff_eq_none] at hEnds
    rw [Option.some.injEq]
    exact (and_iff_right hEnds).symm

/- What the wait for a state knows at its end. -/
theorem state_run {state : TrainingState} (wait final : Wait) {events : List Arrival}
    (hRun : run (stateStep state) wait events = some final) :
    final.expected = wait.expected ∧ OnlyBookkeeping wait.context final.context ∧ ∀ peer,
      (peer ∈ final.acks ↔ peer ∈ wait.acks ∨ peer ∈ senders (stateAck state) events) ∧
      (peer ∈ final.context.failed ↔
        if peer ∈ wait.expected then
          lostAfter wait.context peer (decide (peer ∈ wait.context.failed)) events = true
        else
          peer ∈ wait.context.failed) := by
  induction events generalizing wait with
  | nil =>
    cases hRun
    refine ⟨rfl, .refl _, fun peer => ?_⟩
    constructor
    · simp [senders]
    · split_ifs
      · simp [lostAfter]
      · rfl
  | cons arrival events ih =>
    rcases run_cons_eq_some_iff.mp hRun with ⟨next, hNext, hRest⟩
    rcases stateStep_eq_some_iff.mp hNext with ⟨-, rfl⟩
    have hMove := stateEvent_move state wait arrival
    have hOnly := hMove.bookkeeping
    rcases ih _ hRest with ⟨hExpected, hOnly', hPeers⟩
    rw [stateEvent_expected] at hExpected
    refine ⟨hExpected, hOnly.trans hOnly', fun peer => ?_⟩
    rcases hPeers peer with ⟨hAcks, hFailed⟩
    constructor
    · rw [hAcks, hMove.mem_acks_iff, mem_senders_cons_iff, or_assoc]
    · rw [hFailed, stateEvent_expected]
      have hMark := mem_failed_stateEvent_iff state wait arrival peer
      split_ifs at hMark ⊢ with hPeer
      · have hDecide :
          decide (peer ∈ (stateEvent state wait arrival).context.failed) =
            lostAfter wait.context peer (decide (peer ∈ wait.context.failed)) [arrival] := by
          rw [Bool.eq_iff_iff, decide_eq_true_iff]
          exact hMark
        rw [hOnly.lostAfter_eq, hDecide]
        rfl
      · exact hMark

/- The peers that are live when the wait ends. -/
def stillLive (context : Context) (events : List Arrival) : Finset NodeId :=
  (liveParticipants context).filter (fun peer => lostAfter context peer false events = false)

def lostAtEnd (context : Context) (events : List Arrival) : Finset NodeId :=
  (liveParticipants context).filter (fun peer => lostAfter context peer false events = true)

section

variable (node : NodeId) (context : Context) (state : TrainingState) (events : List Arrival)

/- Senders of acknowledgements that are not live at the end. -/
def outsiders : Finset NodeId :=
  senders (stateAck state) events \ insert node (stillLive context events)

/-
  The count of a state's acknowledgements is right: twice the
  outsiders, and one for a coordinator that is not a live
  participant, are fewer than the participants the wait began
  with and those that it lost.
-/
def StateCounts : Prop :=
  liveParticipants context = ∅ ∨ 2 * (outsiders node context state events).card +
    (if node ∈ stillLive context events then 0 else 1) <
    (liveParticipants context).card + (lostAtEnd context events).card

variable (hRun : run (stateStep state) (stateWait node context state) events = some final)
include hRun

theorem liveParticipants_of_state_run :
    liveParticipants final.context = stillLive context events := by
  rcases state_run _ final hRun with ⟨-, hOnly, hPeers⟩
  have hStart : final.context.start = context.start := by
    rcases hOnly with ⟨_, _, _, _, _, hFinal⟩
    rw [hFinal]
    rfl
  ext peer
  have hFailed := (hPeers peer).2
  rw [stillLive, Finset.mem_filter, mem_liveParticipants_iff, hStart]
  by_cases hPeer : peer ∈ (stateWait node context state).expected
  · have hBefore := (mem_liveParticipants_iff context peer).mp hPeer
    have hLive : peer ∈ liveParticipants context := hPeer
    rw [if_pos hPeer] at hFailed
    change peer ∈ final.context.failed ↔ lostAfter context peer
      (decide (peer ∈ context.failed)) events = true
      at hFailed
    rw [decide_eq_false hBefore.2] at hFailed
    rw [hFailed]
    simp [hLive, hBefore.1]
  · have hNotLive : peer ∉ liveParticipants context := hPeer
    rw [if_neg hPeer] at hFailed
    change peer ∈ final.context.failed ↔ peer ∈ context.failed at hFailed
    rw [hFailed, ← mem_liveParticipants_iff]
    simp [hNotLive]

/- The wait never counts more than it needs. -/
theorem card_acks_of_state_run (hDone : stateDone final = true) :
    final.acks.card = max (liveParticipants context).card 1 := by
  have hInv : final.expected = liveParticipants context ∧ node ∈ final.acks ∧ final.acks.card ≤
    max (liveParticipants context).card 1 := by
    refine always_of_run (fun wait : Wait =>
      wait.expected = liveParticipants context ∧ node ∈ wait.acks ∧ wait.acks.card ≤
        max (liveParticipants context).card 1)
      ?_ ⟨rfl, by simp [stateWait], by simp [stateWait]⟩ hRun
    rintro wait arrival next ⟨hExpected, hNode, _⟩ hStep
    rcases stateStep_eq_some_iff.mp hStep with ⟨⟨hWait, -⟩, rfl⟩
    have hMove := stateEvent_move state wait arrival
    rw [stateEvent_expected]
    refine ⟨hExpected, ?_, ?_⟩
    · rw [hMove.mem_acks_iff]
      exact Or.inl hNode
    · have hFewer : wait.acks.card < (liveParticipants context).card := by
        simpa [stateDone, hExpected] using hWait
      have hGrows := hMove.card_acks_le
      omega
  have hEnough : (liveParticipants context).card ≤ final.acks.card := by
    simpa [stateDone, hInv.1] using hDone
  have hPos : 0 < final.acks.card := Finset.card_pos.mpr ⟨node, hInv.2.1⟩
  omega

theorem state_majority_iff (hDone : stateDone final = true) :
    (∀ applied, Honest node (stateAck state) events applied → StrictMajority applied
      (liveSet node final.context)) ↔
      StateCounts node context state events := by
  have hLive := liveParticipants_of_state_run node context state events hRun
  have hCard := card_acks_of_state_run node context state events hRun hDone
  have hAcks : final.acks = insert node (senders (stateAck state) events) := by
    ext peer
    rw [((state_run _ final hRun).2.2 peer).1, Finset.mem_insert]
    simp [stateWait]
  rw [forall_honest_majority_iff, liveSet, hLive, StrictMajority, ← hAcks]
  -- count the acknowledgements inside and outside
  have hInside : (insert node (stillLive context events) ∩ final.acks).card +
    (outsiders node context state events).card = final.acks.card := by
    have hOutside : final.acks \ insert node (stillLive context events) =
      outsiders node context state events := by
      rw [hAcks, outsiders, Finset.insert_sdiff_of_mem _ (Finset.mem_insert_self _ _)]
    rw [← hOutside, Finset.inter_comm]
    exact Finset.card_inter_add_card_sdiff _ _
  have hNode : 0 < (insert node (stillLive context events) ∩ final.acks).card := by
    refine Finset.card_pos.mpr ⟨node, ?_⟩
    rw [hAcks]
    simp
  have hSplit : (stillLive context events).card + (lostAtEnd context events).card =
    (liveParticipants context).card := by
    rw [stillLive, lostAtEnd]
    simp only [← Bool.not_eq_false]
    exact Finset.card_filter_add_card_filter_not _
  rw [StateCounts, ← Finset.card_eq_zero]
  by_cases hSelf : node ∈ stillLive context events
  · rw [Finset.insert_eq_of_mem hSelf] at hInside hNode ⊢
    rw [if_pos hSelf]
    omega
  · rw [Finset.card_insert_of_notMem hSelf, if_neg hSelf]
    omega

end

----
-- Both Broadcasts
----

/-
  A successful call that reads `events` and nothing more has
  reached a strict majority of the nodes that are then live
  exactly when its count is right.  What is still unread when
  a call returns has no part in it.
-/
theorem broadcast_majority_iff (node : NodeId) (context : Context) (events : List Arrival) :
    (∀ commit, (broadcastCheckpointAndWait node context commit events).result = .ok true →
      (drain (checkpointStep commit) (checkpointWait node context commit) events).2 = [] →
      ((∀ applied, Honest node (checkpointAck commit) events applied → StrictMajority applied
        (liveSet node (broadcastCheckpointAndWait node context commit events).context)) ↔
        CheckpointCounts node context commit events)) ∧
      ∀ state, (broadcastStateAndWait node context state events).result = .ok true →
        (drain (stateStep state) (stateWait node context state) events).2 = [] →
        ((∀ applied, Honest node (stateAck state) events applied → StrictMajority applied
          (liveSet node (broadcastStateAndWait node context state events).context)) ↔
          StateCounts node context state events) := by
  constructor
  · intro commit hTrue hRead
    rcases (drain_eq_iff (checkpointWait node context commit)).mp
      rfl with ⟨consumed, hSplit, hRun, -⟩
    rw [hRead, List.append_nil] at hSplit
    subst hSplit
    exact checkpoint_majority_iff node context commit events hRun (Except.ok.inj hTrue)
  · intro state hTrue hRead
    rcases (drain_eq_iff (stateWait node context state)).mp rfl with ⟨consumed, hSplit, hRun, -⟩
    rw [hRead, List.append_nil] at hSplit
    subst hSplit
    rcases broadcastStateAndWait_done node context state events hTrue with ⟨hDone, hContext⟩
    rw [hContext]
    exact state_majority_iff node context state events hRun hDone

/- A coordinator of the small job, in some term. -/
def smallCoordinator (node : NodeId) (term : UInt64) : Context :=
  { Context.new (smallStart 0) .coordinator with coordinator := node, term := term }

def acknowledgement (term : UInt64) (kind : TrainingAckKind) (peer : NodeId) : Arrival where
  event := .message peer (.ack ⟨⟨7⟩, peer, term, kind⟩)
  connected := true
  reconnected := true
  admitted := true

def commitAcks (coordinator : NodeId) (term : UInt64) (peers : List NodeId) : List Arrival :=
  peers.map (acknowledgement term (.checkpoint (smallCommit coordinator term 2).manifest.hash))

def stateAcks (peers : List NodeId) : List Arrival :=
  peers.map (acknowledgement 1 (.state 0 ⟨1⟩))

/- Node 9 started the job and is not one of its workers. -/
theorem broadcast_majority_small : (∀ applied, Honest ⟨9⟩ (checkpointAck (smallCommit ⟨9⟩ 1 2))
    (commitAcks ⟨9⟩ 1 [⟨1⟩, ⟨2⟩]) applied →
    StrictMajority applied (liveSet ⟨9⟩
      (broadcastCheckpointAndWait ⟨9⟩ (smallCoordinator ⟨9⟩ 1) (smallCommit ⟨9⟩ 1 2)
        (commitAcks ⟨9⟩ 1 [⟨1⟩, ⟨2⟩])).context)) ∧
    ∀ applied, Honest ⟨9⟩ (stateAck (smallCoordinator ⟨9⟩ 1).state)
      (stateAcks [⟨1⟩, ⟨2⟩, ⟨3⟩]) applied →
      StrictMajority applied (liveSet ⟨9⟩
        (broadcastStateAndWait ⟨9⟩ (smallCoordinator ⟨9⟩ 1) (smallCoordinator ⟨9⟩ 1).state
          (stateAcks [⟨1⟩, ⟨2⟩, ⟨3⟩])).context) := by
  constructor
  · refine ((broadcast_majority_iff ⟨9⟩ (smallCoordinator ⟨9⟩ 1) (commitAcks ⟨9⟩ 1 [⟨1⟩, ⟨2⟩])).1 _
      (by rfl) (by rfl)).mpr ⟨?_, by decide⟩
    refine ⟨fun _ _ => rfl, fun next hNext => ?_⟩
    cases hNext
    exact ⟨fun _ _ => rfl, fun _ _ => trivial⟩
  · exact ((broadcast_majority_iff ⟨9⟩ (smallCoordinator ⟨9⟩ 1) (stateAcks [⟨1⟩, ⟨2⟩, ⟨3⟩])).2 _
      (by rfl) (by rfl)).mpr (Or.inr (by decide))

/-
  Worker 1 was elected coordinator and is one of four live
  participants.  One acknowledgement satisfies its wait, and
  two of four nodes have the checkpoint.
-/
theorem broadcast_majority_elected :
    (broadcastCheckpointAndWait ⟨1⟩ (smallCoordinator ⟨1⟩ 2) (smallCommit ⟨1⟩ 2 2)
      (commitAcks ⟨1⟩ 2 [⟨2⟩])).result = .ok true ∧
      ∃ applied, Honest ⟨1⟩ (checkpointAck (smallCommit ⟨1⟩ 2 2)) (commitAcks ⟨1⟩ 2 [⟨2⟩]) applied ∧
        ¬ StrictMajority applied (liveSet ⟨1⟩
          (broadcastCheckpointAndWait ⟨1⟩ (smallCoordinator ⟨1⟩ 2) (smallCommit ⟨1⟩ 2 2)
            (commitAcks ⟨1⟩ 2 [⟨2⟩])).context) := by
  refine ⟨by rfl, {⟨1⟩, ⟨2⟩}, ?_, by decide⟩
  rw [honest_iff]
  decide

end IntelligenceNetwork.Training
