import IntelligenceNetwork.Frontier.System

/-
  The ledger of a node and the messages it takes.

  The handlers of four kinds of messages enter a claim into the
  ledger before they do anything else.

  Main declarations:
    * `messageClaim`
    * `LedgerStep`
-/

----
-- Claims of Messages
----

namespace IntelligenceNetwork.Frontier

/- The claim that a peer makes with a message. -/
def messageClaim (peer : NodeId) : TrainingV4Message → Option Security.AuthenticatedClaim
| .integratedStart start => some (graphClaim peer start.graph)
| .stateRecord record => some (trainingStateClaim peer record)
| .optimizerShard record => some (optimizerClaim peer record)
| .checkpointRecord record => some (checkpointClaim peer record)
| .plan plan => some (planClaim peer "v4.plan" plan)
| _ => none

/- What a step does to the ledger, in memory and on disk. -/
inductive LedgerStep (member : Member) : NodeInput → Member → Prop
  | same (input : NodeInput) (after : Member) (hSecurity : after.security = member.security)
    (hStored : after.storedSecurity = member.storedSecurity) : LedgerStep member input after
  | observed (env : HandlerEnv) (peer : NodeId) (message : TrainingV4Message)
    (claim : Security.AuthenticatedClaim) (after : Member)
    (hClaim : messageClaim peer message = some claim) (hSecurity : after.security =
      (Security.observeAuthenticatedClaim member.security claim env.now).security)
    (hStored : after.storedSecurity = member.storedSecurity ∨
      after.storedSecurity = after.security) :
    LedgerStep member (.received env peer message) after
  | restarted (after : Member) (hSecurity : after.security = member.storedSecurity)
    (hStored : after.storedSecurity = member.storedSecurity) : LedgerStep member .restarted after
  | elsewhere (security stored : Security.LocalSecurityState) (after : Member)
    (hSecurity : after.security = security) (hStored : after.storedSecurity = stored) :
    LedgerStep member (.elsewhere security stored) after

/- The same ledger, in memory and on disk. -/
def SameLedgers (first second : Member) : Prop :=
  first.security = second.security ∧ first.storedSecurity = second.storedSecurity

/- What a step does to the ledger is over once the claim is in. -/
theorem LedgerStep.congr {member current later : Member} {input : NodeInput}
    (hStep : LedgerStep member input current) (hSame : SameLedgers later current) :
    LedgerStep member input later := by
  rcases hSame with ⟨hMemory, hDisk⟩
  cases hStep with
  | same _ _ hSecurity hStored => exact .same _ _ (hMemory.trans hSecurity) (hDisk.trans hStored)
  | observed env peer message claim _ hClaim hSecurity hStored =>
    refine .observed env peer message claim _ hClaim (hMemory.trans hSecurity) ?_
    rwa [hMemory, hDisk]
  | restarted _ hSecurity hStored =>
    exact .restarted _ (hMemory.trans hSecurity) (hDisk.trans hStored)
  | elsewhere _ _ _ hSecurity hStored =>
    exact .elsewhere _ _ _ (hMemory.trans hSecurity) (hDisk.trans hStored)

/- The ledger is no record of the job. -/
theorem observeClaim_member {env : HandlerEnv} {member : Member}
    {claim : Security.AuthenticatedClaim} : (observeClaim env member claim).effects = [] ∧
      (observeClaim env member claim).member.held = member.held ∧
      (observeClaim env member claim).member.stored = member.stored ∧
      (observeClaim env member claim).member.task = member.task := by
  unfold observeClaim
  dsimp only
  split
  · exact ⟨rfl, rfl, rfl, rfl⟩
  · exact ⟨rfl, rfl, rfl, rfl⟩

end IntelligenceNetwork.Frontier
