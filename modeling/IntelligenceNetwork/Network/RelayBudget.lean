import IntelligenceNetwork.Network.Relay

/-
  What a relay spends on its sessions.

  The first envelope of a session is passed on whatever its
  length.

  Main declarations:
    * `OpensWithin`
    * `BudgetInv`
    * `relay_budgets_iff`
-/

----
-- Handing Envelopes On
----

namespace IntelligenceNetwork.Network

open Transition OrderedMap

/- The part of the configuration check that is about relays. -/
def RelaySettings.valid (settings : RelaySettings) : Bool :=
  !(settings.relayMaxSessions == 0 || settings.relayMaxBytes == 0 ||
    settings.relayMaxBytes.toNat > maxRelayPayload * 4096)

/- An envelope that comes to the relay. -/
structure Handing extends RelayEnvelope where
  now : UInt64
  authenticatedPeer : NodeId

/- The relay, with the payload passed on so far in each session. -/
structure RelayBook where
  tables : RelayTables
  forwarded : RequestId → Nat

section

variable (host : Host) (codec : RelayCodec) (settings : RelaySettings)
variable (book : RelayBook) (handing : Handing)

/- The sessions that were active within the last minute. -/
def liveSessions : Std.TreeMap RequestId RelaySession :=
  book.tables.relaySessions.filter (fun _ session =>
    Saturating.sub handing.now session.lastActivity ≤ 60)

/- Whether the envelope finds no session that is live. -/
def opens : Bool :=
  (liveSessions book handing)[handing.sessionId]?.isNone

/- A session that is opened has passed on nothing yet. -/
def spend : Except NetworkError (Option Message) → RequestId → Nat
| .ok none =>
  Function.update book.forwarded handing.sessionId
    ((if opens book handing then 0 else book.forwarded handing.sessionId) + handing.payload.length)
| _ => book.forwarded

def handled : RelayTables × Except NetworkError (Option Message) :=
  handleRelayEnvelope host codec settings handing.now book.tables handing.authenticatedPeer
    handing.toRelayEnvelope

def handOn : RelayBook where
  tables := (handled host codec settings book handing).1
  forwarded := spend book handing (handled host codec settings book handing).2

structure WithinBudget (book : RelayBook) : Prop where
  sessions : book.tables.relaySessions.size ≤ settings.relayMaxSessions
  bytes : ∀ sessionId, book.forwarded sessionId ≤ settings.relayMaxBytes.toNat

/-
  An authentic envelope for another node that finds no session,
  while the relay has room for one.
-/
def opensSession : Bool :=
  (authenticate host codec handing.toRelayEnvelope).isOk && handing.target != host.node &&
    settings.relayEnabled && opens book handing &&
    (liveSessions book handing).size < settings.relayMaxSessions

/- The first envelope of a session is within the budget. -/
def OpensWithin : Prop :=
  opensSession host codec settings book handing = true →
    handing.payload.length ≤ settings.relayMaxBytes.toNat

instance : Decidable (OpensWithin host codec settings book handing) :=
  inferInstanceAs (Decidable (_ → _))

end

----
-- One Envelope
----

section

variable {host : Host} {codec : RelayCodec} {settings : RelaySettings}
variable {book : RelayBook} {handing : Handing}

/- The sessions have counted at least what was passed on in them. -/
structure BudgetInv (settings : RelaySettings) (sessions : Std.TreeMap RequestId RelaySession)
    (forwarded : RequestId → Nat) : Prop where
  size : sessions.size ≤ settings.relayMaxSessions
  bytes : ∀ sessionId, forwarded sessionId ≤ settings.relayMaxBytes.toNat
  counted : ∀ sessionId session, sessions[sessionId]? = some session →
    forwarded sessionId ≤ session.bytes.toNat

/- A session is opened or goes on, and the others stay as they are. -/
theorem BudgetInv.insert {sessions : Std.TreeMap RequestId RelaySession}
    {forwarded : RequestId → Nat} {sessionId : RequestId} {session : RelaySession} {total : Nat}
    (hInv : BudgetInv settings sessions forwarded)
    (hRoom : sessionId ∈ sessions ∨ sessions.size < settings.relayMaxSessions)
    (hBytes : total ≤ settings.relayMaxBytes.toNat) (hCounted : total ≤ session.bytes.toNat) :
    BudgetInv settings (sessions.insert sessionId session)
      (Function.update forwarded sessionId total) := by
  refine ⟨(size_insert_le_iff hInv.size).mpr hRoom, ?_, ?_⟩
  · intro other
    rw [Function.update_apply]
    split_ifs
    · exact hBytes
    · exact hInv.bytes other
  · intro other held hHeld
    rw [getElem?_insert] at hHeld
    split_ifs at hHeld with hSame
    · cases hHeld
      simpa [hSame] using hCounted
    · simpa [Ne.symm hSame] using hInv.counted other held hHeld

theorem BudgetInv.relayEnvelope (hValid : settings.valid = true)
    (hInv : BudgetInv settings book.tables.relaySessions book.forwarded)
    (hLength : handing.payload.length ≤ maxRelayPayload)
    {tables : RelayTables} {result : Except NetworkError (Option Message)}
    (hOpens : opens book handing = true →
      (liveSessions book handing).size < settings.relayMaxSessions →
      handing.payload.length ≤ settings.relayMaxBytes.toNat)
    (hHandled : relayEnvelope settings handing.now book.tables handing.toRelayEnvelope =
      (tables, result)) :
    BudgetInv settings tables.relaySessions (spend book handing result) := by
  have hLive : BudgetInv settings (liveSessions book handing) book.forwarded := by
    refine ⟨Std.TreeMap.size_filter_le_size.trans hInv.size, hInv.bytes, ?_⟩
    intro sessionId session hSession
    rw [liveSessions, Std.TreeMap.getElem?_filter', Option.filter_eq_some_iff] at hSession
    exact hInv.counted sessionId session hSession.1
  have hLimit : settings.relayMaxBytes.toNat ≤ maxRelayPayload * 4096 := by
    simp only [RelaySettings.valid] at hValid
    grind
  unfold maxRelayPayload at hLimit hLength
  have hWord : (UInt64.ofNat handing.payload.length).toNat = handing.payload.length := by
    rw [UInt64.toNat_ofNat', Nat.mod_eq_of_lt (by omega)]
  unfold Network.relayEnvelope at hHandled
  dsimp only at hHandled
  split at hHandled
  · rename_i session hSession
    have hGoesOn : opens book handing = false := by
      rw [opens, liveSessions, hSession]
      rfl
    have hMem : handing.sessionId ∈ liveSessions book handing := by
      simp [liveSessions, Std.TreeMap.mem_iff_isSome_getElem?, hSession]
    have hCounted := hLive.counted _ _ hSession
    have hBytes := Saturating.toNat_add session.bytes (.ofNat handing.payload.length)
    have hBound := session.bytes.toNat_lt
    split_ifs at hHandled with hOther hOver
    · cases hHandled
      exact hLive
    · cases hHandled
      change BudgetInv settings _ book.forwarded
      rw [← Function.update_eq_self handing.sessionId book.forwarded]
      refine hLive.insert (Or.inl hMem) (hInv.bytes _) ?_
      dsimp only
      omega
    · cases hHandled
      rw [UInt64.not_lt, UInt64.le_iff_toNat_le] at hOver
      rw [spend, hGoesOn, if_neg nofun]
      refine hLive.insert (Or.inl hMem) ?_ ?_
      · omega
      · dsimp only
        omega
  · rename_i hNone
    have hFresh : opens book handing = true := by
      rw [opens, liveSessions, hNone]
      rfl
    split_ifs at hHandled with hFull
    · cases hHandled
      exact hLive
    · cases hHandled
      have hFirst := hOpens hFresh (Nat.not_le.mp hFull)
      rw [spend, hFresh, if_pos rfl, Nat.zero_add]
      exact hLive.insert (Or.inr (Nat.not_le.mp hFull)) hFirst hWord.ge

/- An envelope that opens a session is passed on. -/
theorem handled_of_opensSession (hOpens : opensSession host codec settings book handing = true) :
    (handled host codec settings book handing).2 = .ok none := by
  simp only [opensSession, opens, liveSessions, Bool.and_eq_true, bne_iff_ne, ne_eq,
    Option.isNone_iff_eq_none] at hOpens
  obtain ⟨⟨⟨⟨hAuthentic, hTarget⟩, hEnabled⟩, hFresh⟩, hRoom⟩ := hOpens
  unfold handled handleRelayEnvelope
  split
  · rename_i hRefused
    rw [hRefused] at hAuthentic
    cases hAuthentic
  · rw [if_neg hTarget, if_neg (by simp [hEnabled]), relayEnvelope]
    dsimp only
    rw [hFresh]
    dsimp only
    rw [if_neg (Nat.not_le.mpr (of_decide_eq_true hRoom))]

theorem BudgetInv.handOn (hValid : settings.valid = true)
    (hInv : BudgetInv settings book.tables.relaySessions book.forwarded)
    (hOpens : OpensWithin host codec settings book handing) :
    BudgetInv settings (handOn host codec settings book handing).tables.relaySessions
      (handOn host codec settings book handing).forwarded := by
  unfold Network.handOn
  dsimp only
  generalize hHandled : handled host codec settings book handing = result at *
  rcases result with ⟨tables, result⟩
  unfold handled handleRelayEnvelope at hHandled
  split at hHandled
  · cases hHandled
    exact hInv
  · rename_i hAuthentic
    have hRead : spend book handing (openPayload host codec handing.payload) = book.forwarded := by
      unfold openPayload
      grind [spend]
    split_ifs at hHandled with hTarget hDirect hDisabled
    · cases hHandled
      rwa [hRead]
    · cases hHandled
      rwa [hRead]
    · cases hHandled
      exact hInv
    · have hFirst : opens book handing = true →
          (liveSessions book handing).size < settings.relayMaxSessions →
          handing.payload.length ≤ settings.relayMaxBytes.toNat := by
        intro hFresh hRoom
        rw [Bool.not_eq_true, Bool.not_eq_false'] at hDisabled
        refine hOpens ?_
        simp [opensSession, hAuthentic, Except.isOk, Except.toBool, hTarget, hDisabled, hFresh,
          hRoom]
      refine hInv.relayEnvelope hValid ?_ hFirst hHandled
      unfold authenticate at hAuthentic
      split at hAuthentic
      · cases hAuthentic
      · rename_i hEnvelope
        simp only [RelayEnvelope.validate, Validation.bind_eq_ok_iff,
          Validation.rejectIf_eq_ok_iff, Bool.or_eq_false_iff, decide_eq_false_iff_not,
          Nat.not_lt] at hEnvelope
        exact hEnvelope.choose_spec.1.2

end

/- No session has been opened yet. -/
def quietBook : RelayBook := ⟨⟨∅, ∅⟩, fun _ => 0⟩

/-
  The sessions of a relay stay within its budgets exactly as
  long as none is opened with an envelope that is over them.
-/
theorem relay_budgets_iff (host : Host) (codec : RelayCodec) (settings : RelaySettings)
    (hValid : settings.valid = true) (handings : List Handing) :
    Meets (fun book handing => some (handOn host codec settings book handing))
      (fun book handing => WithinBudget settings (handOn host codec settings book handing))
      quietBook handings ↔
      Meets (fun book handing => some (handOn host codec settings book handing))
        (OpensWithin host codec settings) quietBook handings := by
  refine meets_iff_of_total
    (fun book => BudgetInv settings book.tables.relaySessions book.forwarded) ?_ quietBook
    ⟨Nat.zero_le _, fun _ => Nat.zero_le _, by simp [quietBook]⟩
  intro book handing hInv
  have hFirst : WithinBudget settings (handOn host codec settings book handing) →
    OpensWithin host codec settings book handing := by
    intro hWithin hOpens
    have hFresh : opens book handing = true := by
      simp only [opensSession, Bool.and_eq_true] at hOpens
      exact hOpens.1.2
    simpa [handOn, handled_of_opensSession hOpens, spend, hFresh] using
      hWithin.bytes handing.sessionId
  refine ⟨⟨hFirst, fun hOpens => ?_⟩, fun hWithin => hInv.handOn hValid (hFirst hWithin)⟩
  exact ⟨(hInv.handOn hValid hOpens).size, (hInv.handOn hValid hOpens).bytes⟩

/- Node 2 sends two bytes to node 3, through node 1. -/
def twoBytes : Handing :=
  ⟨⟨⟨9⟩, ⟨2⟩, 2, ⟨3⟩, [7, 7], List.replicate 64 0⟩, 100, ⟨2⟩⟩

def smallRelay (relayMaxBytes : UInt64) : RelaySettings := ⟨true, relayMaxBytes, 1⟩

theorem relay_budgets_three : (smallRelay 3).valid = true ∧
    Meets (fun book handing => some (handOn smallHost smallCodec (smallRelay 3) book handing))
      (fun book handing =>
        WithinBudget (smallRelay 3) (handOn smallHost smallCodec (smallRelay 3) book handing))
      quietBook [twoBytes, twoBytes] :=
  ⟨by decide, (relay_budgets_iff smallHost smallCodec (smallRelay 3) (by decide) _).mpr
    (by decide +kernel)⟩

/- With a budget of one byte they are passed on all the same. -/
theorem relay_budget_exceeded : (smallRelay 1).valid = true ∧
    (handOn smallHost smallCodec (smallRelay 1) quietBook twoBytes).forwarded ⟨9⟩ = 2 := by
  decide +kernel

end IntelligenceNetwork.Network
