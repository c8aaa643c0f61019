import IntelligenceNetwork.Network.ConnectionTask

/-
  The queue of a connection, before there is a writer.

  A task queues its greetings before it starts the writer that
  takes messages out.  Where others leave no room, it waits for
  a writer that only it could start.

  Main declarations:
    * `setupStep`
    * `LeavesRoom`
    * `setup_reaches_writer`
-/

----
-- Setting Up a Connection
----

namespace IntelligenceNetwork.Network

open Transition

/- The number of messages that a queue holds. -/
def connectionQueue : Nat := 128

/- What signing answers, and whether the key was rotated. -/
structure Credentials where
  signed : Greeting → Except String Unit
  rotated : Bool

inductive SetupPhase where
  | greeting (left : List Greeting)
  | running
  | failed (error : NetworkError)
  deriving DecidableEq

/- A task after its registration, and the length of its queue. -/
structure Setup where
  phase : SetupPhase
  queued : Nat
  bounded : queued ≤ connectionQueue
  deriving DecidableEq

inductive SetupAction where
  | advance
  | send
  | write

variable (credentials : Credentials)

/- The receiver of the queue is alive, so that no send fails. -/
def greetEnv (greeting : Greeting) : WorkEnv :=
  ⟨⟨0, true⟩, credentials.signed greeting, true⟩

/- Whether the task sends the greeting at all. -/
def sent : Greeting → Bool
| .keyRotation => true
| greeting => (credentials.signed greeting).isOk

/- The writer is started after the last greeting. -/
def afterGreeting (greeting : Greeting) (left : List Greeting) : SetupPhase :=
  match greet (greetEnv credentials greeting) greeting with
  | .error error => .failed error
  | .ok () => if left.isEmpty then .running else .greeting left

/- A sender waits while the queue is full. -/
def enqueue (setup : Setup) (phase : SetupPhase) : Option Setup :=
  if hRoom : setup.queued < connectionQueue then some ⟨phase, setup.queued + 1, hRoom⟩ else none

def setupStep (setup : Setup) : SetupAction → Option Setup
| .advance =>
  match setup.phase with
  | .greeting (greeting :: left) =>
    if sent credentials greeting then
      enqueue setup (afterGreeting credentials greeting left)
    else
      some { setup with phase := afterGreeting credentials greeting left }
  | _ => none
| .send => enqueue setup setup.phase
| .write =>
  if setup.phase = .running ∧ 0 < setup.queued then
    some ⟨setup.phase, setup.queued - 1, Nat.le_trans (Nat.sub_le _ _) setup.bounded⟩
  else
    none

def Setup.start (minor : UInt16) : Setup :=
  ⟨.greeting (greetings minor credentials.rotated), 0, Nat.zero_le _⟩

/- The greetings that are still queued, up to a failure. -/
def ownSends : List Greeting → Nat
| [] => 0
| greeting :: left =>
  match greet (greetEnv credentials greeting) greeting with
  | .error _ => 0
  | .ok () => (if sent credentials greeting then 1 else 0) + ownSends left

def SetupPhase.left : SetupPhase → List Greeting
| .greeting left => left
| _ => []

/- The places of the queue that the setup takes in the end. -/
def Setup.need (setup : Setup) : Nat :=
  setup.queued + ownSends credentials setup.phase.left

/- Another sender leaves room for what the task has to send. -/
def LeavesRoom (setup : Setup) : SetupAction → Prop
| .send => setup.phase = .running ∨ setup.need credentials < connectionQueue
| _ => True

instance (setup : Setup) (action : SetupAction) :
    Decidable (LeavesRoom credentials setup action) := by
  unfold LeavesRoom
  cases action <;> infer_instance

----
-- Waiting for the Queue
----

theorem ownSends_le (left : List Greeting) : ownSends credentials left ≤ left.length := by
  induction left with
  | nil => exact Nat.le_refl 0
  | cons greeting left ih =>
    unfold ownSends
    split
    · exact Nat.zero_le _
    · split_ifs <;> simp only [List.length_cons] <;> omega

/- What is sent now and what is sent later. -/
theorem ownSends_cons (greeting : Greeting) (left : List Greeting) :
    ownSends credentials (greeting :: left) = (if sent credentials greeting then 1 else 0) +
      ownSends credentials (afterGreeting credentials greeting left).left := by
  have hSent : ∀ error, greet (greetEnv credentials greeting) greeting = .error error →
    sent credentials greeting = false := by
    intro error _
    cases hSigned : credentials.signed greeting <;> cases greeting <;>
      simp_all [greet, greetEnv, queue, sent, Except.isOk, Except.toBool]
  unfold ownSends afterGreeting
  cases hGreet : greet (greetEnv credentials greeting) greeting with
  | error error => simp [hSent error hGreet, SetupPhase.left]
  | ok _ => cases left <;> simp [SetupPhase.left, ownSends]

variable {credentials} {setup next : Setup}

theorem enqueue_eq_some_iff {phase : SetupPhase} : enqueue setup phase = some next ↔
    setup.queued < connectionQueue ∧ next.phase = phase ∧ next.queued = setup.queued + 1 := by
  unfold enqueue
  split_ifs with hRoom
  · cases next
    simp [hRoom, eq_comm]
  · simp [hRoom]

/- A step of the task sends what was counted for it. -/
theorem advance_eq_some (hStep : setupStep credentials setup .advance = some next) :
    next.need credentials = setup.need credentials ∧
      ∃ greeting left, setup.phase = .greeting (greeting :: left) ∧
        next.phase = afterGreeting credentials greeting left := by
  dsimp only [setupStep] at hStep
  split at hStep
  · rename_i greeting left hPhase
    unfold Setup.need
    rw [hPhase, SetupPhase.left, ownSends_cons]
    split_ifs at hStep with hSent
    · rcases enqueue_eq_some_iff.mp hStep with ⟨-, hNext, hQueued⟩
      rw [hNext, hQueued, if_pos hSent]
      exact ⟨by omega, greeting, left, rfl, rfl⟩
    · cases hStep
      rw [if_neg hSent]
      exact ⟨by dsimp only; omega, greeting, left, rfl, rfl⟩
  · cases hStep

/- A task that needs too much is not at its end. -/
theorem exists_greeting (hOver : connectionQueue < setup.need credentials) :
    ∃ left, setup.phase = .greeting left := by
  have hBounded := setup.bounded
  unfold Setup.need at hOver
  cases hPhase : setup.phase with
  | greeting left => exact ⟨left, rfl⟩
  | running | failed =>
    simp only [hPhase, SetupPhase.left, ownSends] at hOver
    omega

/- Nothing is taken out of the queue of such a task. -/
theorem need_step {action : SetupAction} (hOver : connectionQueue < setup.need credentials)
    (hStep : setupStep credentials setup action = some next) :
    connectionQueue < next.need credentials := by
  cases action with
  | advance => exact (advance_eq_some hStep).1 ▸ hOver
  | send =>
    rcases enqueue_eq_some_iff.mp hStep with ⟨-, hNext, hQueued⟩
    unfold Setup.need at hOver ⊢
    rw [hNext, hQueued]
    omega
  | write =>
    rcases exists_greeting hOver with ⟨left, hPhase⟩
    simp [setupStep, hPhase] at hStep

/- There is room for all that the task has to send. -/
structure Roomy (credentials : Credentials) (setup : Setup) : Prop where
  pending : setup.phase ≠ .greeting []
  room : setup.need credentials ≤ connectionQueue

theorem Roomy.advance (hRoomy : Roomy credentials setup)
    (hStep : setupStep credentials setup .advance = some next) : Roomy credentials next := by
  rcases advance_eq_some hStep with ⟨hNeed, greeting, left, -, hNext⟩
  refine ⟨?_, hNeed ▸ hRoomy.room⟩
  rw [hNext]
  unfold afterGreeting
  split
  · simp
  · cases left <;> simp

theorem Roomy.step (action : SetupAction) (hRoomy : Roomy credentials setup)
    (hLeaves : LeavesRoom credentials setup action)
    (hStep : setupStep credentials setup action = some next) : Roomy credentials next := by
  cases action with
  | advance => exact hRoomy.advance hStep
  | send =>
    rcases enqueue_eq_some_iff.mp hStep with ⟨_, hNext, hQueued⟩
    refine ⟨hNext ▸ hRoomy.pending, ?_⟩
    unfold Setup.need
    rw [hNext, hQueued]
    rcases hLeaves with hRunning | hLess
    · simp only [hRunning, SetupPhase.left, ownSends]
      omega
    · unfold Setup.need at hLess
      omega
  | write =>
    simp only [setupStep] at hStep
    split_ifs at hStep
    cases hStep
    refine ⟨hRoomy.pending, Nat.le_trans ?_ hRoomy.room⟩
    exact Nat.add_le_add_right (Nat.sub_le _ _) _

theorem Roomy.exists_advance {greeting : Greeting} {left : List Greeting}
    (hRoomy : Roomy credentials setup) (hPhase : setup.phase = .greeting (greeting :: left)) :
    ∃ next, setupStep credentials setup .advance = some next ∧
      next.phase = afterGreeting credentials greeting left := by
  have hRoom := hRoomy.room
  simp only [setupStep, hPhase]
  split_ifs with hSent
  · rw [Setup.need, hPhase, SetupPhase.left, ownSends_cons, if_pos hSent] at hRoom
    exact ⟨⟨_, setup.queued + 1, by omega⟩, enqueue_eq_some_iff.mpr ⟨by omega, rfl, rfl⟩, rfl⟩
  · exact ⟨_, rfl, rfl⟩

def SetupPhase.ended : SetupPhase → Prop
| .greeting _ => False
| _ => True

/- With room left, the task gets through by itself. -/
theorem Roomy.finishes (left : List Greeting) (hRoomy : Roomy credentials setup)
    (hLeft : setup.phase.left = left) :
    ∃ taken after, run (setupStep credentials) setup
      (List.replicate taken .advance) = some after ∧ after.phase.ended := by
  induction left generalizing setup with
  | nil =>
    refine ⟨0, setup, rfl, ?_⟩
    cases hPhase : setup.phase with
    | greeting left =>
      rw [hPhase] at hLeft
      exact hRoomy.pending (hPhase.trans (congrArg _ hLeft))
    | running | failed => trivial
  | cons greeting left ih =>
    have hPhase : setup.phase = .greeting (greeting :: left) := by
      cases hPhase : setup.phase <;> simp_all [SetupPhase.left]
    rcases hRoomy.exists_advance hPhase with ⟨next, hStep, hNext⟩
    have hTaken : ∀ taken after, run (setupStep credentials) next
      (List.replicate taken .advance) = some after →
      run (setupStep credentials) setup (List.replicate (taken + 1) .advance) = some after :=
      fun _ _ hRun => run_cons_eq_some_iff.mpr ⟨next, hStep, hRun⟩
    -- the last greeting ends the setup, another one leaves the rest of the list
    cases hAfter : next.phase with
    | greeting rest =>
      have hRest : rest = left := by
        rw [hNext, afterGreeting] at hAfter
        split at hAfter
        · cases hAfter
        · split_ifs at hAfter
          exact (SetupPhase.greeting.inj hAfter).symm
      rcases ih (hRoomy.advance hStep) (by rw [hAfter, SetupPhase.left, hRest]) with
        ⟨taken, after, hRun, hEnded⟩
      exact ⟨taken + 1, after, hTaken taken after hRun, hEnded⟩
    | running | failed => exact ⟨1, next, hTaken 0 next rfl, by rw [hAfter]; trivial⟩

/-
  As long as the other senders leave room for the greetings,
  the task gets to its writer, or to an error, by itself.
-/
theorem setup_reaches_writer (credentials : Credentials) (minor : UInt16)
    (actions : List SetupAction) (final : Setup)
    (hMeets : Meets (setupStep credentials) (LeavesRoom credentials)
      (Setup.start credentials minor) actions)
    (hRun : run (setupStep credentials) (Setup.start credentials minor) actions = some final) :
    ∃ taken after, run (setupStep credentials) final
      (List.replicate taken .advance) = some after ∧ after.phase.ended := by
  have hStart : Roomy credentials (Setup.start credentials minor) := by
    have hShort : (greetings minor credentials.rotated).length ≤ connectionQueue ∧
      greetings minor credentials.rotated ≠ [] := by
      unfold greetings
      split_ifs <;> simp [connectionQueue]
    have hSends := ownSends_le credentials (greetings minor credentials.rotated)
    refine ⟨fun hEmpty => hShort.2 (SetupPhase.greeting.inj hEmpty), ?_⟩
    simp only [Setup.need, Setup.start, SetupPhase.left]
    omega
  exact (invariant_of_run (Roomy credentials)
    (fun _ action _ hRoomy hLeaves hStep => hRoomy.step action hLeaves hStep)
    hStart hMeets hRun).finishes _ rfl

/- Everything is signed, and the key was never rotated. -/
def plainCredentials : Credentials :=
  ⟨fun _ => .ok (), false⟩

/- Others may queue 125 messages beside three greetings. -/
theorem setup_reaches_writer_filled : ∃ taken after, run (setupStep plainCredentials)
    ⟨.greeting (greetings 6 false), 125, by decide⟩ (List.replicate taken .advance) =
      some after ∧ after.phase.ended :=
  setup_reaches_writer plainCredentials 6 (List.replicate 125 .send) _ (by decide +kernel)
    (by decide +kernel)

/- With three messages more, the task waits for good. -/
theorem setup_waits_forever : ∃ final, run (setupStep plainCredentials)
    (Setup.start plainCredentials 6) (List.replicate 128 .send) = some final ∧
    ∀ actions after, run (setupStep plainCredentials) final actions = some after →
      ¬ after.phase.ended := by
  refine ⟨⟨.greeting (greetings 6 false), 128, by decide⟩, by decide +kernel, ?_⟩
  intro actions after hRun
  have hOver := always_of_run (fun setup => connectionQueue < setup.need plainCredentials)
    (fun _ action _ hOver hStep => need_step hOver hStep) (by decide) hRun
  rcases exists_greeting hOver with ⟨left, hPhase⟩
  rw [hPhase]
  exact id

end IntelligenceNetwork.Network
