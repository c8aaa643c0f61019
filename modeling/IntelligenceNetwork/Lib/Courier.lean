import Mathlib.Data.List.Perm.Basic
import Mathlib.Logic.Function.Basic

/-
  Nodes that send each other messages.

  A message is delivered once or never, in any order.  Besides
  the nodes there is one program, whose stage the handlers may
  read and change.

  Main declarations:
    * `Net`
    * `Net.move`
    * `Net.deliver_spec`
-/

----
-- Nets
----

namespace Courier

universe u v w z

structure Parcel (ι : Type u) (M : Type v) where
  (sender target : ι)
  message : M

/- What a node makes of a message, or does by itself. -/
structure Reaction (ι : Type u) (N : Type w) (M : Type v) (σ : Type z) where
  node : N
  sends : List (ι × M)
  stage : σ

structure Net (ι : Type u) (N : Type w) (M : Type v) (σ : Type z) where
  nodes : ι → N
  flight : List (Parcel ι M)
  stage : σ

variable {ι : Type u} {M : Type v} {N : Type w} {σ : Type z}

def parcelsFrom (sender : ι) (sends : List (ι × M)) : List (Parcel ι M) :=
  sends.map (fun send => ⟨sender, send.1, send.2⟩)

/- One reaction of a node, and then another one. -/
def Reaction.andThen (first second : Reaction ι N M σ) : Reaction ι N M σ :=
  { second with sends := first.sends ++ second.sends }

variable [DecidableEq ι]

/- A node reacts. -/
def Net.move (net : Net ι N M σ) (self : ι) (reaction : Reaction ι N M σ) : Net ι N M σ where
  nodes := Function.update net.nodes self reaction.node
  flight := net.flight ++ parcelsFrom self reaction.sends
  stage := reaction.stage

/- A message of the flight reaches its target. -/
def Net.deliver (react : σ → N → Parcel ι M → Reaction ι N M σ) (net : Net ι N M σ)
    (index : Nat) : Option (Net ι N M σ) :=
  match net.flight[index]? with
  | none => none
  | some parcel =>
    some (Net.move { net with flight := net.flight.eraseIdx index } parcel.target
      (react net.stage (net.nodes parcel.target) parcel))

----
-- Moves
----

omit [DecidableEq ι] in
theorem mem_parcelsFrom_iff {sender : ι} (sends : List (ι × M)) (parcel : Parcel ι M) :
    parcel ∈ parcelsFrom sender sends ↔ parcel.sender = sender ∧
      (parcel.target, parcel.message) ∈ sends := by
  simp only [parcelsFrom, List.mem_map]
  constructor
  · rintro ⟨⟨target, message⟩, hSend, rfl⟩
    exact ⟨rfl, hSend⟩
  · rintro ⟨rfl, hSend⟩
    exact ⟨_, hSend, rfl⟩

section

variable (net : Net ι N M σ)

theorem Net.move_nodes_self (self : ι) (reaction : Reaction ι N M σ) :
    (net.move self reaction).nodes self = reaction.node := by
  simp [Net.move]

/- The last reaction of a node is what is left of it. -/
theorem Net.move_move (self : ι) (first second : Reaction ι N M σ) :
    (net.move self first).move self second = net.move self (first.andThen second) := by
  simp [Net.move, Reaction.andThen, parcelsFrom]

/- A node that stays as it is and sends nothing. -/
theorem Net.move_idle (self : ι) (stage : σ) :
    net.move self ⟨net.nodes self, [], stage⟩ = { net with stage := stage } := by
  simp [Net.move, parcelsFrom]

end

/-
  A delivery takes one message out of the flight, and its
  target reacts.
-/
theorem Net.deliver_spec {react : σ → N → Parcel ι M → Reaction ι N M σ} {net next : Net ι N M σ}
    {index : Nat} (hDeliver : net.deliver react index = some next) :
    ∃ parcel rest, net.flight.Perm (parcel :: rest) ∧
      next = Net.move { net with flight := rest } parcel.target
        (react net.stage (net.nodes parcel.target) parcel) := by
  unfold Net.deliver at hDeliver
  cases hParcel : net.flight[index]? with
  | none =>
    rw [hParcel] at hDeliver
    cases hDeliver
  | some parcel =>
    rw [hParcel] at hDeliver
    cases hDeliver
    rcases List.getElem?_eq_some_iff.mp hParcel with ⟨hIndex, rfl⟩
    exact ⟨_, _, (List.getElem_cons_eraseIdx_perm hIndex).symm, rfl⟩

end Courier
