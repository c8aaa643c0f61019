import IntelligenceNetwork.Frontier.Claims

/-
  Where a node has its graphs and manifests from.

  A graph that a node knows after a step was known to it
  before, came with a message, or was built in the step from a
  graph that it knew; and so it is with manifests.

  Main declarations:
    * `Origin`
    * `Did`
    * `Explained`
-/

----
-- What a Node Knows
----

namespace IntelligenceNetwork.Frontier

open OrderedMap

/- The graph a task works with. -/
def Task.graph : Task → Option V4ExecutionGraph
| .driving driver _ _ => some driver.snapshot.graph
| .participant _ (.probing snapshot) => some snapshot.graph
| .participant _ (.electing candidacy) => some candidacy.snapshot.graph
| _ => Option.none

section

variable (member : Member)

/- A graph in the records, in memory or on disk. -/
def Member.Records (graph : V4ExecutionGraph) : Prop :=
  member.held.graph = some graph ∨ member.stored.graph = some graph

/- A manifest in the records, in memory or on disk. -/
def Member.Keeps (generation : UInt64) (checkpoint : V4CheckpointRecord) : Prop :=
  member.held.checkpoints[generation]? = some checkpoint ∨
    member.stored.checkpoints[generation]? = some checkpoint

def Member.Knows (graph : V4ExecutionGraph) : Prop :=
  member.Records graph ∨ member.task.graph = some graph

def Member.Drives (graph : V4ExecutionGraph) : Prop :=
  ∃ driver stage within, member.task = .driving driver stage within ∧ driver.snapshot.graph = graph

/- Where graphs and manifests are kept, and the ledger. -/
def Member.traced :=
  ((member.held.graph, member.stored.graph), (member.held.checkpoints, member.stored.checkpoints),
    member.security, member.storedSecurity)

end

----
-- Origins
----

section

variable (digests : Digests) (node : NodeId) (member : Member)

/- Where a node has a graph from. -/
inductive Origin : NodeInput → V4ExecutionGraph → Prop
  | known (input : NodeInput) (graph : V4ExecutionGraph) (hKnown : member.Knows graph) :
    Origin input graph
  | received (env : HandlerEnv) (peer : NodeId) (start : V4IntegratedStart) :
    Origin (.received env peer (.integratedStart start)) start.graph
  | built (input : NodeInput) (old next : Snapshot) (failed joined : Option NodeId)
    (certificate : Option (List NodeId)) (hOld : member.Knows old.graph)
    (hNext : Succeeds digests node old failed joined certificate next) : Origin input next.graph

variable (input : NodeInput)

/-
  A driver goes on with its graph, or begins with one whose
  coordinator its node is.
-/
def Leads (graph : V4ExecutionGraph) : Prop :=
  member.Drives graph ∨ (Origin digests node member input graph ∧ graph.coordinator = node)

/-
  A graph that is sent has an origin.  A manifest is sent where
  it is offered, and it is offered with its hash.
-/
def Backed (effects : List Effect) : Effect → Prop
| .send _ (.integratedStart start) => Origin digests node member input start.graph
| .send _ (.checkpointRecord checkpoint) => .offered checkpoint ∈ effects
| .offered checkpoint => checkpoint.manifestHash = checkpointHash digests checkpoint
| _ => True

/- What a node has done so far in a step, its task apart. -/
structure Did (effects : List Effect) (current : Member) : Prop where
  records : ∀ graph, current.Records graph → Origin digests node member input graph
  manifests : ∀ generation checkpoint, current.Keeps generation checkpoint →
    member.Keeps generation checkpoint ∨ (checkpoint.checkpointGeneration = generation ∧
      (.offered checkpoint ∈ effects ∨
        ∃ env peer, input = .received env peer (.checkpointRecord checkpoint)))
  backed : ∀ effect ∈ effects, Backed digests node member input effects effect
  ledger : LedgerStep member input current

/- How the task of a node can be changed by a step. -/
inductive Moves : Task → Prop
  | stays : Moves member.task
  | idle : Moves .none
  | watches (participant : Participant) (stage : ParticipantStage)
    (hOrigin : ∀ graph, (Task.participant participant stage).graph = some graph →
      Origin digests node member input graph) :
    Moves (.participant participant stage)
  | drives (driver : Driver) (stage : Stage) (within : Option Participant)
    (hLeads : Leads digests node member input driver.snapshot.graph) :
    Moves (.driving driver stage within)

structure Explained (stepped : Stepped) : Prop where
  did : Did digests node member input stepped.effects stepped.member
  moves : Moves digests node member input stepped.member.task

end

----
-- Effects
----

variable {digests : Digests} {node : NodeId} {member current later : Member} {input : NodeInput}
variable {effects more : List Effect} {effect : Effect} {graph : V4ExecutionGraph}

/- Neither a graph nor a manifest. -/
def Effect.quiet : Effect → Bool
| .send _ (.integratedStart _) | .send _ (.checkpointRecord _) | .offered _ => false
| _ => true

theorem Backed.mono (hBacked : Backed digests node member input effects effect)
    (hMore : effects ⊆ more) : Backed digests node member input more effect := by
  cases effect with
  | send target message =>
    cases message with
    | checkpointRecord checkpoint => exact hMore hBacked
    | _ => exact hBacked
  | _ => exact hBacked

theorem backed_of_quiet (hQuiet : effect.quiet = true) :
    Backed digests node member input effects effect := by
  cases effect with
  | send target message =>
    cases message with
    | integratedStart start | checkpointRecord checkpoint => cases hQuiet
    | _ => trivial
  | offered checkpoint => cases hQuiet
  | _ => trivial

theorem quiet_sends {message : TrainingV4Message} (targets : List NodeId)
    (hQuiet : ∀ target, (Effect.send target message).quiet = true) :
    (targets.map (Effect.send · message)).all Effect.quiet = true := by
  simp [hQuiet]

----
-- One Change After the Other
----

theorem Leads.origin (hLeads : Leads digests node member input graph) :
    Origin digests node member input graph := by
  rcases hLeads with ⟨driver, stage, within, hTask, rfl⟩ | ⟨hOrigin, -⟩
  · exact .known _ _ (Or.inr (by rw [hTask]; rfl))
  · exact hOrigin

theorem Moves.origin {task : Task} (hMoves : Moves digests node member input task)
    (hGraph : task.graph = some graph) : Origin digests node member input graph := by
  cases hMoves with
  | stays => exact .known _ _ (Or.inr hGraph)
  | idle => cases hGraph
  | watches participant stage hOrigin => exact hOrigin graph hGraph
  | drives driver stage within hLeads =>
    cases hGraph
    exact hLeads.origin

theorem Did.unchanged : Did digests node member input [] member where
  records := fun graph hRecords => .known _ _ (Or.inl hRecords)
  manifests := fun generation checkpoint hKeeps => Or.inl hKeeps
  backed := by
    intro effect hEffect
    cases hEffect
  ledger := .same _ _ rfl rfl

variable (hDid : Did digests node member input effects current)

section

include hDid

theorem Did.congr (hSame : later.traced = current.traced) :
    Did digests node member input effects later := by
  simp only [Member.traced, Prod.mk.injEq] at hSame
  rcases hSame with ⟨⟨hHeld, hStored⟩, ⟨hKept, hFiles⟩, hSecurity, hDisk⟩
  refine ⟨?_, ?_, hDid.backed, hDid.ledger.congr ⟨hSecurity, hDisk⟩⟩
  · intro graph hRecords
    rw [Member.Records, hHeld, hStored] at hRecords
    exact hDid.records graph hRecords
  · intro generation checkpoint hKeeps
    rw [Member.Keeps, hKept, hFiles] at hKeeps
    exact hDid.manifests generation checkpoint hKeeps

/- More effects, wherever they stand among the others. -/
theorem Did.among (hMore : effects ⊆ more)
    (hRest : ∀ effect ∈ more, effect ∈ effects ∨ Backed digests node member input more effect) :
    Did digests node member input more current := by
  refine ⟨hDid.records, ?_, ?_, hDid.ledger⟩
  · intro generation checkpoint hKeeps
    rcases hDid.manifests generation checkpoint hKeeps with
      hBefore | ⟨hGeneration, hOffered | hReceived⟩
    · exact Or.inl hBefore
    · exact Or.inr ⟨hGeneration, Or.inl (hMore hOffered)⟩
    · exact Or.inr ⟨hGeneration, Or.inr hReceived⟩
  · intro effect hEffect
    rcases hRest effect hEffect with hOld | hBacked
    · exact (hDid.backed effect hOld).mono hMore
    · exact hBacked

theorem Did.after (hQuiet : more.all Effect.quiet = true) :
    Did digests node member input (effects ++ more) current := by
  refine hDid.among (List.subset_append_left _ _) ?_
  intro effect hEffect
  rcases List.mem_append.mp hEffect with hOld | hNew
  · exact Or.inl hOld
  · exact Or.inr (backed_of_quiet (List.all_eq_true.mp hQuiet effect hNew))

theorem Did.before (hQuiet : more.all Effect.quiet = true) :
    Did digests node member input (more ++ effects) current := by
  refine hDid.among (List.subset_append_right _ _) ?_
  intro effect hEffect
  rcases List.mem_append.mp hEffect with hNew | hOld
  · exact Or.inr (backed_of_quiet (List.all_eq_true.mp hQuiet effect hNew))
  · exact Or.inl hOld

/- A graph with an origin is entered into the records. -/
theorem Did.taken {held stored : Option V4ExecutionGraph}
    (hOrigin : Origin digests node member input graph)
    (hHeld : held = current.held.graph ∨ held = some graph)
    (hStored : stored = current.stored.graph ∨ stored = some graph)
    (hLater : later.traced = ((held, stored), current.traced.2)) :
    Did digests node member input effects later := by
  simp only [Member.traced, Prod.mk.injEq] at hLater
  rcases hLater with ⟨⟨rfl, rfl⟩, ⟨hKept, hFiles⟩, hSecurity, hDisk⟩
  refine ⟨?_, ?_, hDid.backed, hDid.ledger.congr ⟨hSecurity, hDisk⟩⟩
  · rintro other (hOther | hOther)
    · rcases hHeld with hSame | hNew
      · exact hDid.records other (Or.inl (hSame ▸ hOther))
      · cases hNew.symm.trans hOther
        exact hOrigin
    · rcases hStored with hSame | hNew
      · exact hDid.records other (Or.inr (hSame ▸ hOther))
      · cases hNew.symm.trans hOther
        exact hOrigin
  · intro generation checkpoint hKeeps
    rw [Member.Keeps, hKept, hFiles] at hKeeps
    exact hDid.manifests generation checkpoint hKeeps

end

theorem Did.quietly (hDid : Did digests node member input [] current)
    (hQuiet : more.all Effect.quiet = true) : Did digests node member input more current :=
  hDid.after hQuiet

/- The graph goes out to its workers. -/
theorem Did.activating {snapshot : Snapshot}
    (hDid : Did digests node member input effects current) (windows checkpointEvery : UInt64)
    (attempts : Option Nat) (hOrigin : Origin digests node member input snapshot.graph) :
    Did digests node member input
      (effects ++ (beginActivation node snapshot windows checkpointEvery attempts).2) current := by
  refine hDid.among (List.subset_append_left _ _) ?_
  intro effect hEffect
  rcases List.mem_append.mp hEffect with hOld | hNew
  · exact Or.inl hOld
  · rcases List.mem_map.mp hNew with ⟨worker, -, rfl⟩
    exact Or.inr hOrigin

theorem getElem?_persistCheckpoint {stored : Std.TreeMap UInt64 V4CheckpointRecord}
    {checkpoint found : V4CheckpointRecord} {generation : UInt64}
    (hFound : (persistCheckpoint stored checkpoint)[generation]? = some found) :
    stored[generation]? = some found ∨
      (checkpoint.checkpointGeneration = generation ∧ checkpoint = found) := by
  rcases getElem?_of_insert (getElem?_bound hFound) with hNew | hOld
  · exact Or.inr hNew
  · exact Or.inl (getElem?_bound hOld)

section

variable {checkpoint : V4CheckpointRecord}

theorem keeps_storeCheckpoint {generation : UInt64} {found : V4CheckpointRecord}
    (hKeeps : (storeCheckpoint current checkpoint).Keeps generation found) :
    current.Keeps generation found ∨
      (checkpoint.checkpointGeneration = generation ∧ checkpoint = found) := by
  rcases hKeeps with hHeld | hStored
  · rcases getElem?_of_insert hHeld with hNew | hBefore
    · exact Or.inr hNew
    · exact Or.inl (Or.inl hBefore)
  · rcases getElem?_persistCheckpoint hStored with hBefore | hNew
    · exact Or.inl (Or.inr hBefore)
    · exact Or.inr hNew

theorem Did.roomMade (hDid : Did digests node member input effects current) :
    Did digests node member input effects (makeRoomForCheckpoint current) := by
  refine ⟨hDid.records, ?_, hDid.backed, hDid.ledger.congr ⟨rfl, rfl⟩⟩
  intro generation found hKeeps
  exact hDid.manifests generation found (hKeeps.imp_right getElem?_bound)

theorem Did.kept (hDid : Did digests node member input effects current)
    (hCause : .offered checkpoint ∈ effects ∨
      ∃ env peer, input = .received env peer (.checkpointRecord checkpoint)) :
    Did digests node member input effects (storeCheckpoint current checkpoint) := by
  refine ⟨hDid.records, ?_, hDid.backed, hDid.ledger.congr ⟨rfl, rfl⟩⟩
  intro generation found hKeeps
  rcases keeps_storeCheckpoint hKeeps with hBefore | ⟨hGeneration, rfl⟩
  · exact hDid.manifests generation found hBefore
  · exact Or.inr ⟨hGeneration, hCause⟩

/- A manifest is offered, kept and sent. -/
theorem Did.offered (hDid : Did digests node member input [] current)
    (hHash : checkpoint.manifestHash = checkpointHash digests checkpoint) (targets : List NodeId) :
    Did digests node member input
      (.offered checkpoint :: targets.map (Effect.send · (.checkpointRecord checkpoint)))
      (storeCheckpoint current checkpoint) := by
  refine Did.kept (hDid.among (List.nil_subset _) ?_) (Or.inl List.mem_cons_self)
  intro effect hEffect
  rcases List.mem_cons.mp hEffect with rfl | hSend
  · exact Or.inr hHash
  · rcases List.mem_map.mp hSend with ⟨target, -, rfl⟩
    exact Or.inr List.mem_cons_self

end

----
-- Tasks After a Step
----

theorem explained_unchanged : Explained digests node member input ⟨member, []⟩ :=
  ⟨Did.unchanged, .stays⟩

section

include hDid

theorem Did.explained {task : Task} (hMoves : Moves digests node member input task) :
    Explained digests node member input ⟨{ current with task := task }, effects⟩ :=
  ⟨hDid.congr rfl, hMoves⟩

theorem Did.failed (within : Option Participant) :
    Explained digests node member input (failDriver current effects within) := by
  apply hDid.explained
  cases within with
  | none => exact .idle
  | some participant => exact .watches participant .waiting (by rintro graph ⟨⟩)

theorem Did.waiting (participant : Participant) (misses : UInt8) :
    Explained digests node member input (waitOn current effects participant misses) :=
  hDid.explained (.watches _ .waiting (by rintro graph ⟨⟩))

theorem Did.goesOn {driver : Driver} {stage : Stage} {within : Option Participant}
    (hLeads : Leads digests node member input driver.snapshot.graph) :
    Explained digests node member input (goOn current effects driver stage within) :=
  hDid.explained (.drives driver stage within hLeads)

/- A handler that leaves the task alone. -/
theorem Did.handled (hTask : current.task = member.task) :
    Explained digests node member input ⟨current, effects⟩ := by
  refine ⟨hDid, ?_⟩
  rw [hTask]
  exact .stays

end

/- Something quiet happens first. -/
theorem Explained.before {stepped : Stepped}
    (hExplained : Explained digests node member input stepped)
    (hQuiet : more.all Effect.quiet = true) :
    Explained digests node member input ⟨stepped.member, more ++ stepped.effects⟩ :=
  ⟨hExplained.did.before hQuiet, hExplained.moves⟩

end IntelligenceNetwork.Frontier
