import IntelligenceNetwork.Frontier.Explained

/-
  The graphs of a job.

  Every graph that a node knows or sends is the first graph of
  the job or was built from another one, and a driver is the
  coordinator of the graph it works with.

  Main declarations:
    * `InPlay`
    * `Inherited`
    * `Led`
-/

----
-- Graphs in Play
----

namespace IntelligenceNetwork.Frontier

variable {digests : Digests} {P : V4ExecutionGraph → Prop} {net next : Net} {action : Action}
variable {policies : NodeId → Security.SecurityPolicy}

/- All graphs of a net have a property. -/
structure InPlay (P : V4ExecutionGraph → Prop) (net : Net) : Prop where
  known : ∀ node graph, (net.nodes node).Knows graph → P graph
  sent : ∀ node target start, (node, .send target (.integratedStart start)) ∈ net.log →
    P start.graph

/- Every next graph keeps the property. -/
def Inherited (digests : Digests) (P : V4ExecutionGraph → Prop) : Prop :=
  ∀ node old failed joined certificate next, P old.graph →
    Succeeds digests node old failed joined certificate next → P next.graph

theorem InPlay.origin {node : NodeId} {input : NodeInput} {graph : V4ExecutionGraph}
    (hPlay : InPlay P net) (hInherited : Inherited digests P) (hAllowed : Allowed net node input)
    (hOrigin : Origin digests node (net.nodes node) input graph) : P graph := by
  cases hOrigin with
  | known _ _ hKnown => exact hPlay.known node graph hKnown
  | received env peer start => exact hPlay.sent peer node start hAllowed
  | built _ old next failed joined certificate hOld hNext =>
    exact hInherited node old failed joined certificate next (hPlay.known node _ hOld) hNext

/- A step of the net keeps the property. -/
theorem InPlay.step (hPlay : InPlay P net) (hInherited : Inherited digests P)
    (hStep : netStep digests net action = some next) : InPlay P next := by
  rcases netStep_cases digests hStep with ⟨node, input, stepped, hTurn⟩
  have hExplained := nodeStep_explained hTurn.step
  constructor
  · intro other graph hKnown
    by_cases hOther : other = node
    · rw [hOther, hTurn.self] at hKnown
      apply hPlay.origin hInherited hTurn.allowed
      rcases hKnown with hRecords | hTask
      · exact hExplained.did.records graph hRecords
      · exact hExplained.moves.origin hTask
    · rw [hTurn.other other hOther] at hKnown
      exact hPlay.known other graph hKnown
  · intro other target start hEntry
    rcases (hTurn.mem_log_iff).mp hEntry with hOld | ⟨-, hMade⟩
    · exact hPlay.sent other target start hOld
    · exact hPlay.origin hInherited hTurn.allowed (hExplained.did.backed _ hMade)

theorem inPlay_initial {job : JobStart digests} (hFirst : P job.start.graph) :
    InPlay P (Net.initial job policies) where
  known := by
    intro node graph hKnown
    dsimp only [Net.initial] at hKnown
    split_ifs at hKnown
    · rcases hKnown with (hHeld | hStored) | hTask
      · cases hHeld
        exact hFirst
      · cases hStored
        exact hFirst
      · cases hTask
    · rcases hKnown with (hHeld | hStored) | hTask
      · cases hHeld
      · cases hStored
      · cases hTask
  sent := by
    intro node target start hEntry
    simp only [Net.initial, List.mem_cons, List.not_mem_nil, or_false, Prod.mk.injEq] at hEntry
    rcases hEntry with ⟨-, hSame⟩ | ⟨-, hSame⟩ | ⟨-, hSame⟩
    · cases hSame
    · cases hSame
    · cases hSame
      exact hFirst

----
-- Coordinators
----

/- A driver is the coordinator of its graph. -/
def Led (net : Net) : Prop :=
  ∀ node graph, (net.nodes node).Drives graph → graph.coordinator = node

theorem led_initial {job : JobStart digests} : Led (Net.initial job policies) := by
  rintro node graph ⟨driver, stage, within, hTask, -⟩
  dsimp only [Net.initial] at hTask
  split_ifs at hTask
  · cases hTask
  · cases hTask

theorem Led.step (hLed : Led net) (hStep : netStep digests net action = some next) : Led next := by
  rcases netStep_cases digests hStep with ⟨node, input, stepped, hTurn⟩
  rintro other graph hDrives
  by_cases hOther : other = node
  · rw [hOther, hTurn.self] at hDrives
    rw [hOther]
    rcases hDrives with ⟨driver, stage, within, hTask, rfl⟩
    have hMoves := (nodeStep_explained hTurn.step).moves
    generalize stepped.member.task = task at hMoves hTask
    cases hMoves with
    | stays => exact hLed node _ ⟨driver, stage, within, hTask, rfl⟩
    | idle | watches participant stage hOrigin => cases hTask
    | drives driver stage within hLeads =>
      cases hTask
      rcases hLeads with hDrives | ⟨-, hOwn⟩
      · exact hLed node _ hDrives
      · exact hOwn
  · rw [hTurn.other other hOther] at hDrives
    exact hLed other graph hDrives

end IntelligenceNetwork.Frontier
