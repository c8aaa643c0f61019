import IntelligenceNetwork.Frontier.Job
import IntelligenceNetwork.Lib.Transition

/-
  The nodes of one integrated job.

  A node takes messages, its task goes on, it stops and starts
  again.  A message can be delivered once it stands in the log,
  at any later time, any number of times, or never.

  Main declarations:
    * `nodeStep`
    * `netStep`
    * `Turn`
    * `netStep_cases`
-/

----
-- One Node
----

namespace IntelligenceNetwork.Frontier

variable {node : NodeId}

section

/-
  What a node can meet.  Its plan is also changed by the plan
  messages, and its ledger by what it does for other jobs.
-/
inductive NodeInput where
  | received (env : HandlerEnv) (peer : NodeId) (message : TrainingV4Message)
  | happened (env : HandlerEnv) (event : TaskEvent)
  | restarted
  | resumed (env : HandlerEnv)
  | replanned (plan : V4TrainingPlan)
  | elsewhere (security stored : Security.LocalSecurityState)

/- What a mailbox brings is a message that was delivered. -/
def TaskEvent.isInbound : TaskEvent → Bool
| .inbound _ _ => true
| _ => false

def NodeInput.isReceived : NodeInput → Bool
| .received _ _ _ => true
| _ => false

variable (digests : Digests) (self : NodeId)

/- A message goes to its handler or to the task's mailbox. -/
def receive (env : HandlerEnv) (member : Member) (peer : NodeId)
    (message : TrainingV4Message) : Option Stepped :=
  match handleMessage digests self env member peer message with
  | some handled => some ⟨handled.member, handled.effects⟩
  | none => taskStep digests self env member (.inbound peer message)

def nodeStep (member : Member) : NodeInput → Option Stepped
| .received env peer message => receive digests self env member peer message
| .happened env event => if event.isInbound then none else taskStep digests self env member event
| .restarted => some ⟨restart digests self member, []⟩
| .resumed env => resume digests self env member
| .replanned plan =>
  some ⟨{ member with
        held := { member.held with plan := some plan }
        stored := { member.stored with plan := some plan } }, []⟩
| .elsewhere security stored =>
  some ⟨{ member with security := security, storedSecurity := stored }, []⟩

end

----
-- The Net
----

section

/- The nodes, and what they have done so far. -/
structure Net where
  nodes : NodeId → Member
  log : List (NodeId × Effect)

inductive Action where
  | deliver (index : Nat) (env : HandlerEnv)
  | act (node : NodeId) (input : NodeInput)

/-
  Whose turn it is, and what the node is given.  Only what the
  log holds is delivered.
-/
def Net.turn (net : Net) : Action → Option (NodeId × NodeInput)
| .deliver index env =>
  match net.log[index]? with
  | some (peer, .send node message) => some (node, .received env peer message)
  | _ => none
| .act node input => if input.isReceived then none else some (node, input)

variable (digests : Digests)

/- A node takes an input, and the log what it does. -/
def Net.take (net : Net) (node : NodeId) (input : NodeInput) : Option Net :=
  (nodeStep digests node (net.nodes node) input).map (fun stepped =>
    { nodes := Function.update net.nodes node stepped.member
      log := net.log ++ stepped.effects.map (node, ·) })

def netStep (net : Net) (action : Action) : Option Net :=
  (net.turn action).bind (fun turn => net.take digests turn.1 turn.2)

/- A condition on what a node is given, as one on actions. -/
def Net.atTurn (condition : Net → NodeId → NodeInput → Bool) (net : Net) (action : Action) : Bool :=
  match net.turn action with
  | some (node, input) => condition net node input
  | none => true

variable {digests}

/- The controller has kept the start and sent it. -/
def JobStart.controllerMember (job : JobStart digests)
    (policy : Security.SecurityPolicy) : Member :=
  let records : JobRecords :=
    { JobRecords.empty with
      plan := some job.start.plan
      graph := some job.start.graph
      state := some job.state }
  { Member.new policy with held := records, stored := records, task := .controller }

def Net.initial (job : JobStart digests) (policies : NodeId → Security.SecurityPolicy) : Net where
  nodes := fun node =>
    if node = job.controller then
      job.controllerMember (policies node)
    else
      Member.new (policies node)
  log := [(job.controller, .adopted job.start.graph), (job.controller, .recorded job.state),
    (job.controller, .send job.start.graph.coordinator (.integratedStart job.start))]

end

----
-- Steps of the Net
----

variable {action : Action} {input : NodeInput} {net next : Net}

variable (digests : Digests)

/- What a node may be given: inputs that the log allows. -/
def Allowed (net : Net) (node : NodeId) : NodeInput → Prop
| .received _ peer message => (peer, .send node message) ∈ net.log
| _ => True

theorem allowed_of_turn (hTurn : net.turn action = some (node, input)) :
    Allowed net node input := by
  cases action with
  | deliver index env =>
    rw [Net.turn] at hTurn
    split at hTurn
    · rename_i peer target message hEntry
      cases hTurn
      exact List.mem_of_getElem? hEntry
    · cases hTurn
  | act actor given =>
    rw [Net.turn] at hTurn
    split_ifs at hTurn with hReceived
    cases hTurn
    cases input with
    | received env peer message => exact absurd rfl hReceived
    | happened | restarted | resumed | replanned | elsewhere => trivial

/- One step of the net is one step of one node. -/
structure Turn (net next : Net) (action : Action) (node : NodeId) (input : NodeInput)
    (stepped : Stepped) : Prop where
  turn : net.turn action = some (node, input)
  allowed : Allowed net node input
  step : nodeStep digests node (net.nodes node) input = some stepped
  nodes : next.nodes = Function.update net.nodes node stepped.member
  log : next.log = net.log ++ stepped.effects.map (node, ·)

theorem netStep_cases (hStep : netStep digests net action = some next) :
    ∃ node input stepped, Turn digests net next action node input stepped := by
  rcases Option.bind_eq_some_iff.mp hStep with ⟨⟨node, input⟩, hTurn, hTake⟩
  rcases Option.map_eq_some_iff.mp hTake with ⟨stepped, hStepped, rfl⟩
  exact ⟨node, input, stepped,
    { turn := hTurn
      allowed := allowed_of_turn hTurn
      step := hStepped
      nodes := rfl
      log := rfl }⟩

variable {digests} {stepped : Stepped}

theorem Turn.self (hTurn : Turn digests net next action node input stepped) :
    next.nodes node = stepped.member := by
  rw [hTurn.nodes, Function.update_self]

theorem Turn.other (hTurn : Turn digests net next action node input stepped) (other : NodeId)
    (hOther : other ≠ node) : next.nodes other = net.nodes other := by
  rw [hTurn.nodes, Function.update_of_ne hOther]

variable (hTurn : Turn digests net next action node input stepped)
include hTurn

theorem Turn.mem_log_iff {actor : NodeId} {effect : Effect} :
    (actor, effect) ∈ next.log ↔ (actor, effect) ∈ net.log ∨
      (actor = node ∧ effect ∈ stepped.effects) := by
  rw [hTurn.log, List.mem_append, List.mem_map]
  constructor
  · rintro (hOld | ⟨made, hMade, hEq⟩)
    · exact Or.inl hOld
    · cases hEq
      exact Or.inr ⟨rfl, hMade⟩
  · rintro (hOld | ⟨rfl, hMade⟩)
    · exact Or.inl hOld
    · exact Or.inr ⟨effect, hMade, rfl⟩

/- Nothing is taken out of the log. -/
theorem Turn.grows (entry : NodeId × Effect) (hEntry : entry ∈ net.log) : entry ∈ next.log := by
  rw [hTurn.log]
  exact List.mem_append_left _ hEntry

theorem Turn.made (effect : Effect) (hMade : effect ∈ stepped.effects) :
    (node, effect) ∈ next.log :=
  (hTurn.mem_log_iff).mpr (Or.inr ⟨rfl, hMade⟩)

end IntelligenceNetwork.Frontier
