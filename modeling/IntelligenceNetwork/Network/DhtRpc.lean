import IntelligenceNetwork.Lib.Transition
import IntelligenceNetwork.Network.PeerTable

/-
  Requests to the distributed hash table.

  The future of a call is suspended at every await, and whoever
  waits for it may drop it there.  A step goes from one await to
  the next, so that any number of calls interleave.

  Main declarations:
    * `rpcStep`
    * `RpcInv`
    * `pending_running`
-/

----
-- Calls and Handlers
----

namespace IntelligenceNetwork.Network

open Transition OrderedMap

variable {caller : Nat} {requestId : RequestId}

/- What the receiving end of a call has got. -/
inductive Channel where
  | empty
  | filled (response : DhtResponse)
  | closed
  deriving DecidableEq

/- The await at which the future of a call is suspended. -/
inductive RpcPhase where
  | locking
  | sending
  | cancelling (error : NetworkError)
  | waiting
  | expiring
  deriving DecidableEq

structure RpcCall where
  requestId : RequestId
  peer : NodeId
  request : DhtRequestKind
  phase : RpcPhase
  channel : Channel

/- A handler holds the sender of a call after it took it. -/
inductive ResponseHandler where
  | locking (response : DhtResponse)
  | delivering (caller : Nat) (response : DhtResponse)

inductive RpcEvent where
  | requested (peer : NodeId) (request : DhtRequest)
  | returned (caller : Nat) (result : Except NetworkError DhtResponseKind)
  | rejected (error : NetworkError)

/- A pending request names the call that holds its receiver. -/
structure DhtRuntime where
  pending : Std.TreeMap RequestId Nat
  (rpcSent rpcReceived : UInt64)

/- The calls and handlers that are running on one node. -/
structure RpcSystem where
  dht : DhtRuntime
  calls : Std.TreeMap Nat RpcCall
  handlers : Std.TreeMap Nat ResponseHandler
  (nextCall nextHandler : Nat)
  log : List RpcEvent

def RpcSystem.initial : RpcSystem where
  dht := ⟨∅, 0, 0⟩
  calls := ∅
  handlers := ∅
  nextCall := 0
  nextHandler := 0
  log := []

def concurrencyReached (config : NetworkConfig) (dht : DhtRuntime) : Bool :=
  (max (Saturating.mul config.dhtK 4) 16).toNat ≤ dht.pending.size

namespace RpcSystem

variable (system : RpcSystem)

def setChannel (caller : Nat) (channel : Channel) : RpcSystem :=
  match system.calls[caller]? with
  | none => system
  | some call =>
    { system with calls := system.calls.insert caller { call with channel := channel } }

def setPhase (caller : Nat) (call : RpcCall) (phase : RpcPhase) : RpcSystem :=
  { system with calls := system.calls.insert caller { call with phase := phase } }

/- Removing a pending request drops the sender it held. -/
def dropSender (requestId : RequestId) : RpcSystem :=
  match system.dht.pending[requestId]? with
  | none => system
  | some caller =>
    RpcSystem.setChannel
      { system with dht := { system.dht with pending := system.dht.pending.erase requestId } }
      caller .closed

def finish (caller : Nat) (result : Except NetworkError DhtResponseKind) : RpcSystem :=
  { system with calls := system.calls.erase caller, log := system.log ++ [.returned caller result] }

def finishHandler (handler : Nat) : RpcSystem :=
  { system with handlers := system.handlers.erase handler }

end RpcSystem

----
-- Steps
----

inductive RpcAction where
  | call (peer : NodeId) (request : DhtRequestKind) (requestId : RequestId)
  | enter (caller : Nat)
  | sent (caller : Nat) (result : Except NetworkError Unit)
  | cancel (caller : Nat)
  | receive (caller : Nat)
  | expire (caller : Nat)
  | remove (caller : Nat)
  | drop (caller : Nat)
  | respond (peer : NodeId) (response : DhtResponse)
  | take (handler : Nat)
  | deliver (handler : Nat)
  | abandon (handler : Nat)

def startCall (system : RpcSystem) (peer : NodeId) (request : DhtRequestKind)
    (requestId : RequestId) : RpcSystem :=
  { system with
    calls := system.calls.insert system.nextCall ⟨requestId, peer, request, .locking, .empty⟩
    nextCall := system.nextCall + 1 }

/- The concurrency check, and the request made pending. -/
def enterCall (config : NetworkConfig) (node : NodeId) (system : RpcSystem) (caller : Nat)
    (call : RpcCall) : RpcSystem :=
  if concurrencyReached config system.dht then
    system.finish caller (.error (.peerProtocol "DHT request concurrency limit reached"))
  else
    -- An older request of the same id loses its sender.
    let dropped := system.dropSender call.requestId
    RpcSystem.setPhase { dropped with
      dht :=
        { dropped.dht with
          pending := dropped.dht.pending.insert call.requestId caller
          rpcSent := Saturating.add dropped.dht.rpcSent 1 }
      log := dropped.log ++ [.requested call.peer ⟨call.requestId, node, call.request⟩] }
      caller call .sending

section

variable (system : RpcSystem) (caller : Nat) (call : RpcCall)

def receiveCall : Option RpcSystem :=
  match call.channel with
  | .empty => none
  | .filled response => some (system.finish caller (.ok response.response))
  | .closed => some (system.finish caller (.error .notConnected))

/- The receiver is looked at before the clock. -/
def expireCall : Option RpcSystem :=
  if call.channel = .empty then some (system.setPhase caller call .expiring) else none

end

/- What a call does when it is woken from an await. -/
def callStep (config : NetworkConfig) (node : NodeId) (system : RpcSystem) (caller : Nat)
    (call : RpcCall) : RpcAction → Option RpcSystem
| .enter _ =>
  if call.phase = .locking then some (enterCall config node system caller call) else none
| .sent _ (.ok ()) =>
  if call.phase = .sending then some (system.setPhase caller call .waiting) else none
| .sent _ (.error error) =>
  if call.phase = .sending then some (system.setPhase caller call (.cancelling error)) else none
| .cancel _ =>
  match call.phase with
  | .cancelling error => some ((system.dropSender call.requestId).finish caller (.error error))
  | _ => none
| .receive _ => if call.phase = .waiting then receiveCall system caller call else none
| .expire _ => if call.phase = .waiting then expireCall system caller call else none
| .remove _ =>
  if call.phase = .expiring then
    some ((system.dropSender call.requestId).finish caller
      (.error (.peerProtocol "DHT RPC timed out")))
  else
    none
| .drop _ => some { system with calls := system.calls.erase caller }
| _ => none

/- A response is checked before the table is locked. -/
def startHandler (hashing : Hashing) (system : RpcSystem) (peer : NodeId)
    (response : DhtResponse) : RpcSystem :=
  match response.validate hashing with
  | .error error =>
    { system with log := system.log ++ [.rejected (.peerProtocol error.text)] }
  | .ok () =>
    if response.responder ≠ peer then
      { system with log := system.log ++ [.rejected .identityVerification] }
    else
      { system with
        handlers := system.handlers.insert system.nextHandler (.locking response)
        nextHandler := system.nextHandler + 1 }

def takeSender (system : RpcSystem) (handler : Nat) (response : DhtResponse) : RpcSystem :=
  match system.dht.pending[response.requestId]? with
  | none => system.finishHandler handler
  | some caller =>
    { system with
      dht := { system.dht with pending := system.dht.pending.erase response.requestId }
      handlers := system.handlers.insert handler (.delivering caller response) }

def deliverResponse (system : RpcSystem) (handler caller : Nat)
    (response : DhtResponse) : RpcSystem :=
  RpcSystem.setChannel { system.finishHandler handler with
    dht := { system.dht with rpcReceived := Saturating.add system.dht.rpcReceived 1 } }
    caller (.filled response)

def handlerStep (system : RpcSystem) (handler : Nat) :
    ResponseHandler → RpcAction → Option RpcSystem
| .locking response, .take _ => some (takeSender system handler response)
| .delivering caller response, .deliver _ => some (deliverResponse system handler caller response)
| .locking _, .abandon _ => some (system.finishHandler handler)
| .delivering caller _, .abandon _ =>
  some ((system.finishHandler handler).setChannel caller .closed)
| _, _ => none

/- Whom an action wakes. -/
inductive Woken where
  | nobody
  | caller (caller : Nat)
  | handler (handler : Nat)

def RpcAction.woken : RpcAction → Woken
| .call _ _ _ | .respond _ _ => .nobody
| .enter caller | .sent caller _ | .cancel caller | .receive caller | .expire caller
| .remove caller | .drop caller => .caller caller
| .take handler | .deliver handler | .abandon handler => .handler handler

def arrivalStep (hashing : Hashing) (system : RpcSystem) : RpcAction → Option RpcSystem
| .call peer request requestId => some (startCall system peer request requestId)
| .respond peer response => some (startHandler hashing system peer response)
| _ => none

def rpcStep (config : NetworkConfig) (hashing : Hashing) (node : NodeId) (system : RpcSystem)
    (action : RpcAction) : Option RpcSystem :=
  match action.woken with
  | .nobody => arrivalStep hashing system action
  | .caller caller =>
    match system.calls[caller]? with
    | none => none
    | some call => callStep config node system caller call action
  | .handler handler =>
    match system.handlers[handler]? with
    | none => none
    | some state => handlerStep system handler state action

----
-- Who Holds a Sender
----

variable {call : RpcCall} {system : RpcSystem}

/- The call still waits for its sender in the table. -/
def Awaits (system : RpcSystem) (requestId : RequestId) (caller : Nat) : Prop :=
  ∃ call, system.calls[caller]? = some call ∧ call.requestId = requestId ∧
    call.channel = .empty ∧ call.phase ≠ .locking

/-
  The sender of a call is in one place.  While the table has
  it, the call is running; once a handler has it, it does not
  come back.
-/
structure RpcInv (system : RpcSystem) : Prop where
  pending : ∀ (requestId : RequestId) (caller : Nat), system.dht.pending[requestId]? = some caller →
    Awaits system requestId caller
  taken : ∀ (handler caller : Nat) (response : DhtResponse), system.handlers[handler]? =
    some (.delivering caller response) → caller < system.nextCall ∧
    (∀ requestId : RequestId, system.dht.pending[requestId]? ≠ some caller) ∧
    ∀ call, system.calls[caller]? = some call → call.phase ≠ .locking
  locking : ∀ (caller : Nat) (call : RpcCall), system.calls[caller]? = some call →
    call.phase = .locking → call.channel = .empty
  fresh : ∀ caller, system.nextCall ≤ caller → system.calls[caller]? = none

/- The table has no sender of this call. -/
def NotPending (system : RpcSystem) (caller : Nat) : Prop :=
  ∀ requestId : RequestId, system.dht.pending[requestId]? ≠ some caller

namespace RpcInv

theorem initial : RpcInv RpcSystem.initial := by
  constructor
  · intro requestId caller hPending
    simp [RpcSystem.initial] at hPending
  · intro handler caller response hHandler
    simp [RpcSystem.initial] at hHandler
  · intro caller call hCall
    simp [RpcSystem.initial] at hCall
  · intro caller _
    simp [RpcSystem.initial]

section

variable (hInv : RpcInv system) (hCall : system.calls[caller]? = some call)
include hInv hCall

theorem lt_nextCall : caller < system.nextCall := by
  by_contra hFresh
  rw [hInv.fresh caller (Nat.le_of_not_lt hFresh)] at hCall
  cases hCall

/- A call is pending under its own request id only. -/
theorem notPending_of_ne (hOther : system.dht.pending[call.requestId]? ≠ some caller) :
    NotPending system caller := by
  intro requestId hPending
  rcases hInv.pending requestId caller hPending with ⟨call', hCall', hId, -⟩
  rw [hCall] at hCall'
  cases hCall'
  rw [hId] at hOther
  exact hOther hPending

theorem notPending_of_locking (hPhase : call.phase = .locking) : NotPending system caller := by
  intro requestId hPending
  rcases hInv.pending requestId caller hPending with ⟨call', hCall', -, -, hNot⟩
  rw [hCall] at hCall'
  cases hCall'
  exact hNot hPhase

theorem notPending_of_channel (hChannel : call.channel ≠ .empty) : NotPending system caller := by
  intro requestId hPending
  rcases hInv.pending requestId caller hPending with ⟨call', hCall', -, hEmpty, -⟩
  rw [hCall] at hCall'
  cases hCall'
  exact hChannel hEmpty

end

----
-- What the Steps Keep
----

section

variable (hInv : RpcInv system)

include hInv

/- The log and the counters hold no senders. -/
theorem relog (rpcSent rpcReceived : UInt64) {log : List RpcEvent} : RpcInv
    { system with dht := ⟨system.dht.pending, rpcSent, rpcReceived⟩, log := log } :=
  ⟨hInv.pending, hInv.taken, hInv.locking, hInv.fresh⟩

theorem erase_call (hFree : NotPending system caller) :
    RpcInv { system with calls := system.calls.erase caller } := by
  refine ⟨?_, ?_, ?_, ?_⟩
  · intro requestId owner hPending
    rcases hInv.pending requestId owner hPending with ⟨call, hCall, hRest⟩
    refine ⟨call, ?_, hRest⟩
    rw [getElem?_erase, if_neg]
    · exact hCall
    · rintro rfl
      exact hFree requestId hPending
  · intro handler owner response hHandler
    rcases hInv.taken handler owner response hHandler with ⟨hBound, hTaken, hPhase⟩
    refine ⟨hBound, hTaken, ?_⟩
    intro call hCall
    exact hPhase call (getElem?_of_erase hCall)
  · intro owner call hCall
    exact hInv.locking owner call (getElem?_of_erase hCall)
  · intro owner hFresh
    rw [getElem?_erase, hInv.fresh owner hFresh]
    split_ifs
    · rfl
    · rfl

theorem finish (hFree : NotPending system caller) (result : Except NetworkError DhtResponseKind) :
    RpcInv (system.finish caller result) :=
  (hInv.erase_call hFree).relog _ _

/- More than its phase may change only if no one waits for the call. -/
theorem insert_call (hCall : system.calls[caller]? = some call) (changed : RpcCall)
    (hSame : NotPending system caller ∨ changed = { call with phase := changed.phase })
    (hPhase : changed.phase ≠ .locking) :
    RpcInv { system with calls := system.calls.insert caller changed } := by
  refine ⟨?_, ?_, ?_, ?_⟩
  · intro requestId owner hPending
    rcases hInv.pending requestId owner hPending with ⟨call', hCall', hId, hChannel, hNot⟩
    by_cases hOwner : caller = owner
    · subst hOwner
      rcases hSame with hFree | hSame
      · exact absurd hPending (hFree requestId)
      · cases hCall.symm.trans hCall'
        rw [hSame]
        exact ⟨_, Std.TreeMap.getElem?_insert_self, hId, hChannel, hPhase⟩
    · exact ⟨call', getElem?_insert.trans ((if_neg hOwner).trans hCall'), hId, hChannel, hNot⟩
  · intro handler owner response hHandler
    rcases hInv.taken handler owner response hHandler with ⟨hBound, hTaken, hNot⟩
    refine ⟨hBound, hTaken, ?_⟩
    intro call' hCall'
    rcases getElem?_of_insert hCall' with ⟨-, rfl⟩ | hCall'
    · exact hPhase
    · exact hNot call' hCall'
  · intro owner call' hCall' hLocking
    rcases getElem?_of_insert hCall' with ⟨-, rfl⟩ | hCall'
    · exact absurd hLocking hPhase
    · exact hInv.locking owner call' hCall' hLocking
  · intro owner hFresh
    rw [getElem?_insert, if_neg]
    · exact hInv.fresh owner hFresh
    · rintro rfl
      rw [hInv.fresh caller hFresh] at hCall
      cases hCall

theorem setChannel (hFree : NotPending system caller)
    (hUnlocked : ∀ call, system.calls[caller]? = some call → call.phase ≠ .locking)
    (channel : Channel) : RpcInv (system.setChannel caller channel) := by
  unfold RpcSystem.setChannel
  cases hCall : system.calls[caller]? with
  | none => exact hInv
  | some call => exact hInv.insert_call hCall _ (Or.inl hFree) (hUnlocked call hCall)

theorem setPhase (hCall : system.calls[caller]? = some call) (phase : RpcPhase)
    (hPhase : phase ≠ .locking) : RpcInv (system.setPhase caller call phase) :=
  hInv.insert_call hCall _ (Or.inr rfl) hPhase

/- Taking a request out of the table. -/
theorem erase_pending (requestId : RequestId) : RpcInv
    { system with dht := { system.dht with pending := system.dht.pending.erase requestId } } := by
  refine ⟨?_, ?_, hInv.locking, hInv.fresh⟩
  · intro other caller hPending
    exact hInv.pending other caller (getElem?_of_erase hPending)
  · intro handler caller response hHandler
    rcases hInv.taken handler caller response hHandler with ⟨hBound, hTaken, hPhase⟩
    exact ⟨hBound, fun other hPending => hTaken other (getElem?_of_erase hPending), hPhase⟩

/- Afterwards the table has no sender of the call it named. -/
theorem notPending_erase (hPending : system.dht.pending[requestId]? = some caller)
    (other : RequestId) : (system.dht.pending.erase requestId)[other]? ≠ some caller := by
  intro hOther
  rw [getElem?_erase] at hOther
  split_ifs at hOther with hSame
  rcases hInv.pending requestId caller hPending with ⟨call, hCall, hId, -⟩
  rcases hInv.pending other caller hOther with ⟨call', hCall', hId', -⟩
  rw [hCall] at hCall'
  cases hCall'
  exact hSame (hId.symm.trans hId')

theorem dropSender (requestId : RequestId) : RpcInv (system.dropSender requestId) := by
  unfold RpcSystem.dropSender
  cases hPending : system.dht.pending[requestId]? with
  | none => exact hInv
  | some caller =>
    rcases hInv.pending requestId caller hPending with ⟨call, hCall, -, -, hNot⟩
    refine (hInv.erase_pending requestId).setChannel (hInv.notPending_erase hPending) ?_ .closed
    intro call' hCall'
    cases hCall.symm.trans hCall'
    exact hNot

theorem finishHandler (handler : Nat) : RpcInv (system.finishHandler handler) := by
  refine ⟨hInv.pending, ?_, hInv.locking, hInv.fresh⟩
  intro other caller response hHandler
  exact hInv.taken other caller response (getElem?_of_erase hHandler)

end

----
-- Pending Requests Are Running
----

theorem startCall (hInv : RpcInv system) (peer : NodeId) (request : DhtRequestKind)
    (requestId : RequestId) : RpcInv (Network.startCall system peer request requestId) := by
  refine ⟨?_, ?_, ?_, ?_⟩
  · intro other caller hPending
    rcases hInv.pending other caller hPending with ⟨call, hCall, hRest⟩
    refine ⟨call, ?_, hRest⟩
    rw [Network.startCall, getElem?_insert, if_neg]
    · exact hCall
    · exact (Nat.ne_of_lt (hInv.lt_nextCall hCall)).symm
  · intro handler caller response hHandler
    rcases hInv.taken handler caller response hHandler with ⟨hBound, hTaken, hPhase⟩
    refine ⟨Nat.lt_succ_of_lt hBound, hTaken, ?_⟩
    intro call hCall
    rw [Network.startCall, getElem?_insert, if_neg] at hCall
    · exact hPhase call hCall
    · exact (Nat.ne_of_lt hBound).symm
  · intro caller call hCall hLocking
    rcases getElem?_of_insert hCall with ⟨-, rfl⟩ | hCall
    · rfl
    · exact hInv.locking caller call hCall hLocking
  · intro caller hFresh
    change system.nextCall + 1 ≤ caller at hFresh
    rw [Network.startCall, getElem?_insert, if_neg]
    · exact hInv.fresh caller (by omega)
    · omega

/- A call's request becomes pending while no one has it. -/
theorem insert_pending (hInv : RpcInv system) (hAwaits : Awaits system requestId caller)
    (hUntaken : ∀ (handler : Nat) (response : DhtResponse), system.handlers[handler]? ≠
      some (.delivering caller response)) :
    RpcInv { system with
      dht := { system.dht with pending := system.dht.pending.insert requestId caller } } := by
  refine ⟨?_, ?_, hInv.locking, hInv.fresh⟩
  · intro other owner hPending
    rcases getElem?_of_insert hPending with ⟨rfl, rfl⟩ | hPending
    · exact hAwaits
    · exact hInv.pending other owner hPending
  · intro handler owner response hHandler
    rcases hInv.taken handler owner response hHandler with ⟨hBound, hTaken, hPhase⟩
    refine ⟨hBound, ?_, hPhase⟩
    intro other hPending
    rcases getElem?_of_insert hPending with ⟨-, rfl⟩ | hPending
    · exact hUntaken handler response hHandler
    · exact hTaken other hPending

/- Only the call that loses its sender is changed. -/
theorem dropSender_calls (hFree : NotPending system caller) :
    (system.dropSender requestId).calls[caller]? = system.calls[caller]? := by
  unfold RpcSystem.dropSender
  cases hPending : system.dht.pending[requestId]? with
  | none => rfl
  | some owner =>
    unfold RpcSystem.setChannel
    dsimp only
    split
    · rfl
    · rw [getElem?_insert, if_neg]
      rintro rfl
      exact hFree requestId hPending

theorem dropSender_pending (system : RpcSystem) (requestId other : RequestId) :
    (system.dropSender requestId).dht.pending[other]? =
      if requestId = other then none else system.dht.pending[other]? := by
  unfold RpcSystem.dropSender
  cases hPending : system.dht.pending[requestId]? with
  | none =>
    split_ifs with hSame
    · rw [← hSame]
      exact hPending
    · rfl
  | some owner =>
    rw [← getElem?_erase]
    unfold RpcSystem.setChannel
    dsimp only
    split
    · rfl
    · rfl

theorem dropSender_handlers (system : RpcSystem) (requestId : RequestId) :
    (system.dropSender requestId).handlers = system.handlers := by
  unfold RpcSystem.dropSender RpcSystem.setChannel
  split
  · rfl
  · split
    · rfl
    · rfl

/- A call that takes its own request back is free to end. -/
theorem notPending_dropSender (hInv : RpcInv system) (hCall : system.calls[caller]? = some call) :
    NotPending (system.dropSender call.requestId) caller := by
  intro requestId hPending
  rw [dropSender_pending] at hPending
  split_ifs at hPending with hSame
  rcases hInv.pending requestId caller hPending with ⟨call', hCall', hId, -⟩
  cases hCall.symm.trans hCall'
  exact hSame hId

/- The request becomes pending as the call leaves its lock. -/
theorem enterCall (hInv : RpcInv system) (config : NetworkConfig) (node : NodeId)
    (hCall : system.calls[caller]? = some call) (hPhase : call.phase = .locking) :
    RpcInv (Network.enterCall config node system caller call) := by
  have hFree := hInv.notPending_of_locking hCall hPhase
  unfold Network.enterCall
  split_ifs
  · exact hInv.finish hFree _
  · have hDropped := hInv.dropSender call.requestId
    have hSending := hDropped.setPhase ((dropSender_calls hFree).trans hCall) .sending (by simp)
    have hAwaits : Awaits ((system.dropSender call.requestId).setPhase caller call .sending)
      call.requestId caller :=
      ⟨{ call with phase := .sending }, getElem?_insert.trans
        (if_pos rfl), rfl, hInv.locking caller call hCall hPhase, by simp⟩
    refine (hSending.insert_pending hAwaits ?_).relog _ _
    intro handler response hHandler
    change (system.dropSender call.requestId).handlers[handler]? = _ at hHandler
    rw [dropSender_handlers] at hHandler
    exact (hInv.taken handler caller response hHandler).2.2 call hCall hPhase

end RpcInv

/- No future is dropped while the table has its sender. -/
def KeepsFuture (system : RpcSystem) : RpcAction → Prop
| .drop caller =>
  ∀ call, system.calls[caller]? = some call → system.dht.pending[call.requestId]? ≠ some caller
| _ => True

namespace RpcInv

variable {next : RpcSystem}

theorem callStep (hInv : RpcInv system) (config : NetworkConfig) (node : NodeId)
    (hCall : system.calls[caller]? = some call) (action : RpcAction)
    (hKeeps : action = .drop caller → KeepsFuture system action)
    (hCaller : action.woken = .caller caller)
    (hStep : Network.callStep config node system caller call action = some next) : RpcInv next := by
  cases action with
  | enter _ =>
    rw [Network.callStep] at hStep
    split_ifs at hStep with hPhase
    cases hStep
    exact hInv.enterCall config node hCall hPhase
  | sent _ result =>
    cases result with
    | ok value =>
      rw [Network.callStep] at hStep
      split_ifs at hStep
      cases hStep
      exact hInv.setPhase hCall .waiting (by simp)
    | error error =>
      rw [Network.callStep] at hStep
      split_ifs at hStep
      cases hStep
      exact hInv.setPhase hCall (.cancelling error) (by simp)
  | cancel _ =>
    rw [Network.callStep] at hStep
    split at hStep
    · cases hStep
      exact (hInv.dropSender call.requestId).finish (hInv.notPending_dropSender hCall) _
    · cases hStep
  | receive _ =>
    rw [Network.callStep] at hStep
    split_ifs at hStep
    unfold receiveCall at hStep
    split at hStep
    · cases hStep
    · rename_i hChannel
      cases hStep
      exact hInv.finish (hInv.notPending_of_channel hCall (by simp [hChannel])) _
    · rename_i hChannel
      cases hStep
      exact hInv.finish (hInv.notPending_of_channel hCall (by simp [hChannel])) _
  | expire _ =>
    rw [Network.callStep] at hStep
    unfold expireCall at hStep
    split_ifs at hStep
    cases hStep
    exact hInv.setPhase hCall .expiring (by simp)
  | remove _ =>
    rw [Network.callStep] at hStep
    split_ifs at hStep
    cases hStep
    exact (hInv.dropSender call.requestId).finish (hInv.notPending_dropSender hCall) _
  | drop _ =>
    cases hCaller
    cases hStep
    exact hInv.erase_call (hInv.notPending_of_ne hCall (hKeeps rfl call hCall))
  | call _ _ _ | respond _ _ | take _ | deliver _ | abandon _ => cases hStep

theorem startHandler (hInv : RpcInv system) (hashing : Hashing) (peer : NodeId)
    (response : DhtResponse) : RpcInv (Network.startHandler hashing system peer response) := by
  unfold Network.startHandler
  split
  · exact hInv.relog _ _
  · split_ifs
    · exact hInv.relog _ _
    · refine ⟨hInv.pending, ?_, hInv.locking, hInv.fresh⟩
      intro handler caller taken hHandler
      rw [getElem?_insert] at hHandler
      split_ifs at hHandler
      · cases hHandler
      · exact hInv.taken handler caller taken hHandler

theorem takeSender (hInv : RpcInv system) (handler : Nat) (response : DhtResponse) :
    RpcInv (Network.takeSender system handler response) := by
  unfold Network.takeSender
  cases hPending : system.dht.pending[response.requestId]? with
  | none => exact hInv.finishHandler handler
  | some caller =>
    have hErased := hInv.erase_pending response.requestId
    rcases hInv.pending response.requestId caller hPending with ⟨call, hCall, -, -, hNot⟩
    refine ⟨hErased.pending, ?_, hInv.locking, hInv.fresh⟩
    intro other owner taken hHandler
    rcases getElem?_of_insert hHandler with ⟨-, ⟨⟩⟩ | hHandler
    · refine ⟨hInv.lt_nextCall hCall, hInv.notPending_erase hPending, ?_⟩
      intro call' hCall'
      cases hCall.symm.trans hCall'
      exact hNot
    · exact hErased.taken other owner taken hHandler

theorem handlerStep (hInv : RpcInv system) {handler : Nat} {state : ResponseHandler}
    (hHandler : system.handlers[handler]? = some state) (action : RpcAction)
    (hStep : Network.handlerStep system handler state action = some next) : RpcInv next := by
  unfold Network.handlerStep at hStep
  split at hStep
  · cases hStep
    exact hInv.takeSender handler _
  · rename_i caller response hState
    rcases hInv.taken handler caller response hHandler with ⟨-, hTaken, hPhase⟩
    cases hStep
    exact ((hInv.finishHandler handler).relog system.dht.rpcSent
      (Saturating.add system.dht.rpcReceived 1)).setChannel hTaken hPhase (.filled response)
  · cases hStep
    exact hInv.finishHandler handler
  · rename_i caller response hState
    rcases hInv.taken handler caller response hHandler with ⟨-, hTaken, hPhase⟩
    cases hStep
    exact (hInv.finishHandler handler).setChannel hTaken hPhase _
  · cases hStep

theorem step (config : NetworkConfig) (hashing : Hashing) (node : NodeId) (action : RpcAction)
    (hInv : RpcInv system) (hKeeps : KeepsFuture system action)
    (hStep : rpcStep config hashing node system action = some next) : RpcInv next := by
  unfold rpcStep at hStep
  split at hStep
  · unfold arrivalStep at hStep
    split at hStep <;> cases hStep
    · exact hInv.startCall _ _ _
    · exact hInv.startHandler hashing _ _
  · rename_i caller hCaller
    split at hStep
    · cases hStep
    · rename_i call hCall
      exact hInv.callStep config node hCall action (fun _ => hKeeps) hCaller hStep
  · split at hStep
    · cases hStep
    · rename_i state hHandler
      exact hInv.handlerStep hHandler action hStep

end RpcInv

/-
  In every run in which no future is dropped while its request
  is pending, a pending request belongs to a running call, and
  calls that have not got past the check cannot be refused.
-/
theorem pending_running (config : NetworkConfig) (hashing : Hashing) (node : NodeId)
    (actions : List RpcAction) (final : RpcSystem)
    (hMeets : Meets (rpcStep config hashing node) KeepsFuture RpcSystem.initial actions)
    (hRun : run (rpcStep config hashing node) RpcSystem.initial actions = some final) :
    (∀ (requestId : RequestId) (caller : Nat), final.dht.pending[requestId]? = some caller →
      ∃ call, final.calls[caller]? = some call ∧ call.requestId = requestId) ∧
      ((∀ (caller : Nat) (call : RpcCall), final.calls[caller]? = some call →
        call.phase = .locking) → concurrencyReached config final.dht = false) := by
  have hInv : RpcInv final := invariant_of_run RpcInv (fun system action next hInv hKeeps hStep =>
    RpcInv.step config hashing node action hInv hKeeps hStep)
    RpcInv.initial hMeets hRun
  constructor
  · intro requestId caller hPending
    rcases hInv.pending requestId caller hPending with ⟨call, hCall, hId, -⟩
    exact ⟨call, hCall, hId⟩
  · intro hLocking
    have hEmpty : final.dht.pending.size = 0 := by
      apply size_eq_zero
      intro requestId
      by_contra hSome
      rcases Option.ne_none_iff_exists'.mp hSome with ⟨caller, hPending⟩
      rcases hInv.pending requestId caller hPending with ⟨call, hCall, -, -, hNot⟩
      exact hNot (hLocking caller call hCall)
    have hLimit : (16 : UInt64).toNat ≤ (max (Saturating.mul config.dhtK 4) 16).toNat :=
      UInt64.le_iff_toNat_le.mp (Saturating.le_max_right _ 16)
    have hSixteen : (16 : UInt64).toNat = 16 := rfl
    apply decide_eq_false
    omega

def smallConfig : NetworkConfig := ⟨8, 600, true, 4⟩

/- No record is hashed on the way of a ping. -/
def pingHashing : Hashing := ⟨fun _ => ⟨0⟩, fun _ => ⟨0⟩⟩

/- Up to the wait for the answer. -/
def sendPing (caller : Nat) : List RpcAction :=
  [.call ⟨2⟩ .ping ⟨BitVec.ofNat 128 caller⟩, .enter caller, .sent caller (.ok ())]

theorem pending_running_ping : ∃ final, run (rpcStep smallConfig pingHashing ⟨1⟩)
    RpcSystem.initial (sendPing 0) = some final ∧
    final.dht.pending[(⟨0⟩ : RequestId)]? = some 0 ∧
    ∃ call, final.calls[0]? = some call ∧ call.requestId = ⟨0⟩ := by
  refine ⟨_, rfl, by rfl, ?_⟩
  refine (pending_running smallConfig pingHashing ⟨1⟩ (sendPing 0) _ ?_ rfl).1 ⟨0⟩ 0 (by rfl)
  exact ⟨trivial, fun _ _ => ⟨trivial, fun _ _ =>
    ⟨trivial, fun _ _ => trivial⟩⟩⟩

/- Pings whose callers stop waiting before the call does. -/
def droppedPings (number : Nat) : List RpcAction :=
  (List.range number).flatMap (fun caller =>
    sendPing caller ++ [.drop caller])

theorem droppedPings_isSome : (run (rpcStep smallConfig pingHashing ⟨1⟩)
    RpcSystem.initial (droppedPings 16)).isSome := by
  decide +kernel

/-
  After sixteen of them nothing is running any more, and the
  check refuses the next call.
-/
theorem pending_leaks : ∃ final, run (rpcStep smallConfig pingHashing ⟨1⟩)
    RpcSystem.initial (droppedPings 16) = some final ∧
    (∀ caller : Nat, final.calls[caller]? = none) ∧
    final.dht.pending[(⟨0⟩ : RequestId)]? = some 0 ∧
    concurrencyReached smallConfig final.dht = true := by
  refine ⟨Option.get _ droppedPings_isSome, (Option.some_get droppedPings_isSome).symm, ?_,
    by decide +kernel, by decide +kernel⟩
  intro caller
  exact Std.TreeMap.getElem?_of_isEmpty (by decide +kernel)

end IntelligenceNetwork.Network
