import IntelligenceNetwork.Training.Frame

/-
  What a window makes its node do to the outside.

  During the waits a node only replies: it acknowledges, it
  sends its state along with a vote, and it offers artifacts.

  Main declarations:
    * `OnlyReplies`
    * `CollectEffect`
    * `collectGroupUpdates_effects`
-/

----
-- Replies
----

namespace IntelligenceNetwork.Training

variable {node : NodeId}

def isReply : Effect → Bool
| .sent _ (.ack _) | .sent _ (.state _) | .sent _ (.checkpointOffer _) => true
| _ => false

def OnlyReplies (effects : List Effect) : Prop :=
  ∀ effect ∈ effects, isReply effect = true

namespace OnlyReplies

theorem nil : OnlyReplies [] := by
  intro effect hMem
  cases hMem

theorem cons {effect : Effect} {effects : List Effect} (hHead : isReply effect = true)
    (hTail : OnlyReplies effects) : OnlyReplies (effect :: effects) := by
  intro other hMem
  rcases List.mem_cons.mp hMem with rfl | hMem
  · exact hHead
  · exact hTail other hMem

theorem append {first second : List Effect} (hFirst : OnlyReplies first)
    (hSecond : OnlyReplies second) : OnlyReplies (first ++ second) := by
  intro effect hMem
  rcases List.mem_append.mp hMem with hMem | hMem
  · exact hFirst effect hMem
  · exact hSecond effect hMem

end OnlyReplies

theorem handleElection_replies (node : NodeId) (context : Context) (peer : NodeId)
    (election : TrainingElection) :
    OnlyReplies (handleElection node context peer election).effects := by
  unfold handleElection
  split_ifs
  · exact .nil
  · dsimp only
    split_ifs
    · exact .cons rfl (.cons rfl OnlyReplies.nil)
    · exact .cons rfl OnlyReplies.nil

/- Nothing else is done during the waits. -/
theorem onlyReplies_waitTrace : WaitTrace node (fun _ effects _ => OnlyReplies effects) where
  refl := fun _ => .nil
  trans := .append
  marks := fun _ => .nil
  votes := handleElection_replies node
  offers := fun _ _ _ => .cons rfl OnlyReplies.nil

----
-- Collecting
----

/-
  What a node does while it collects a window, as the context
  stood when the window was opened.
-/
inductive CollectEffect (node : NodeId) (context : Context)
    (window : TrainingWindow) : Effect → Prop where
  | computed : CollectEffect node context window (.computed context window)
  | reply (effect : Effect) (hReply : isReply effect = true) :
    CollectEffect node context window effect
  | stored (state : TrainingShardState) : CollectEffect node context window
    (.persistedShardState state)
  | announced (target : NodeId) (state : TrainingShardState) :
    CollectEffect node context window (.sent target (.shardState state))
  | produced (aggregate : TrainingAggregate)
    (hGeneration : aggregate.generation = Saturating.add window.baseGeneration 1) :
    CollectEffect node context window
      (.produced window (computeUpdate context window node) aggregate)
  | reported (target : NodeId) (aggregate : TrainingAggregate) :
    CollectEffect node context window (.sent target (.aggregate aggregate))

theorem reportAggregate_effects {held : Context} {round : Round} {window : TrainingWindow}
    {state : TrainingShardState} {aggregate : TrainingAggregate} {context : Context}
    (hGeneration : aggregate.generation = Saturating.add window.baseGeneration 1) :
    ∀ effect ∈ (reportAggregate round window (computeUpdate held window node) state aggregate
      context).effects, CollectEffect node held window effect := by
  intro effect hMem
  have hProduced := @CollectEffect.produced node held window aggregate hGeneration
  unfold reportAggregate at hMem
  dsimp only at hMem
  split_ifs at hMem
  · rcases List.mem_cons.mp hMem with rfl | hMem
    · exact hProduced
    · rw [List.mem_singleton.mp hMem]
      exact .reported _ aggregate
  all_goals
    rw [List.mem_singleton.mp hMem]
    exact hProduced

variable (digest : Digest) (node : NodeId) (round : Round) (context : Context)
variable (group : TrainingGroup) (window : TrainingWindow)

/- The computation is recorded whatever happens after it. -/
theorem computed_mem_collectGroupUpdates : Effect.computed context window ∈
    (collectGroupUpdates digest node round context group window).effects := by
  unfold collectGroupUpdates
  dsimp only
  split
  · exact List.mem_cons_self
  · split_ifs
    · exact List.mem_cons_self
    · exact List.mem_cons_self
    · split
      · exact List.mem_cons_self
      · split_ifs
        · exact List.mem_cons_self
        · exact List.mem_cons_self

theorem collectGroupUpdates_effects :
    ∀ effect ∈ (collectGroupUpdates digest node round context group window).effects,
      CollectEffect node context window effect := by
  -- the waits first, then what surrounds them
  have hWaited : ∀ effect ∈ Effect.computed context window ::
    (gatherUpdates node window (group.members.filter (· ∉ context.failed)).toFinset
      context [computeUpdate context window node] round.updates).effects,
    CollectEffect node context window effect := by
    intro effect hMem
    rcases List.mem_cons.mp hMem with rfl | hMem
    · exact .computed
    · exact .reply effect (gatherUpdates_trace onlyReplies_waitTrace
        window _ context _ round.updates effect hMem)
  have hReplicated : ∀ (state : TrainingShardState) (members : List NodeId) (replies : List Effect),
    OnlyReplies replies → ∀ effect ∈ Effect.persistedShardState state :: (members.map (fun member =>
        Effect.sent member (.shardState state)) ++ replies),
      CollectEffect node context window effect := by
    intro state members replies hReplies effect hMem
    rcases List.mem_cons.mp hMem with rfl | hMem
    · exact .stored state
    · rcases List.mem_append.mp hMem with hMem | hMem
      · rcases List.mem_map.mp hMem with ⟨member, -, rfl⟩
        exact .announced member state
      · exact .reply effect (hReplies effect hMem)
  intro effect hMem
  unfold collectGroupUpdates at hMem
  dsimp only at hMem
  split at hMem
  · exact hWaited effect hMem
  · split_ifs at hMem
    · exact hWaited effect hMem
    · exact hWaited effect hMem
    · split at hMem
      · rcases List.mem_append.mp hMem with hMem | hMem
        · exact hWaited effect hMem
        · exact hReplicated _ _ _ (replicateShard_trace onlyReplies_waitTrace round _ _ _ _)
            effect hMem
      · split_ifs at hMem
        · rcases List.mem_append.mp hMem with hMem | hMem
          · exact hWaited effect hMem
          · exact hReplicated _ _ _ (replicateShard_trace onlyReplies_waitTrace round _ _ _ _)
              effect hMem
        · rcases List.mem_append.mp hMem with hMem | hMem
          · rcases List.mem_append.mp hMem with hMem | hMem
            · exact hWaited effect hMem
            · exact hReplicated _ _ _ (replicateShard_trace onlyReplies_waitTrace
              round _ _ _ _) effect hMem
          · exact reportAggregate_effects rfl effect hMem

end IntelligenceNetwork.Training
