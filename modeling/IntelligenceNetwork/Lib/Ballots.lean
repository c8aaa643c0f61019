import IntelligenceNetwork.Lib.Quorum

/-
  Votes by term.

  A voter casts ballots, each for one candidate in one term,
  and a candidate counts itself without casting a ballot.

  Main declarations:
    * `VotesOnce`
    * `Supported`
    * `winner_unique`
-/

----
-- Ballots
----

namespace Ballots

structure Ballot (V T : Type*) where
  voter : V
  term : T
  candidate : V

variable {V T : Type*}

/- What `voter` casts in `term` is for `candidate` only. -/
def VotesOnce (cast : List (Ballot V T)) (voter : V) (term : T) (candidate : V) : Prop :=
  ∀ ballot ∈ cast, ballot.voter = voter → ballot.term = term → ballot.candidate = candidate

instance [DecidableEq V] [DecidableEq T] (cast : List (Ballot V T)) (voter : V) (term : T)
    (candidate : V) : Decidable (VotesOnce cast voter term candidate) := by
  unfold VotesOnce
  infer_instance

/- No voter casts two different ballots in one term. -/
def Single (cast : List (Ballot V T)) : Prop :=
  ∀ ballot ∈ cast, VotesOnce cast ballot.voter ballot.term ballot.candidate

/-
  The votes a candidate has counted in a term: ballots cast
  for it, and its own vote, which it has given to nobody else.
-/
structure Supported (cast : List (Ballot V T)) (candidate : V) (term : T)
    (votes : Finset V) : Prop where
  counted : ∀ voter ∈ votes, voter = candidate ∨ ⟨voter, term, candidate⟩ ∈ cast
  loyal : VotesOnce cast candidate term candidate

----
-- More Ballots
----

theorem votesOnce_nil {voter : V} {term : T} {candidate : V} :
    VotesOnce [] voter term candidate := by
  intro ballot hBallot
  cases hBallot

theorem single_nil : Single ([] : List (Ballot V T)) := by
  intro ballot hBallot
  cases hBallot

section

variable {cast more : List (Ballot V T)}

theorem VotesOnce.append {voter candidate : V} {term : T}
    (hCast : VotesOnce cast voter term candidate) (hMore : VotesOnce more voter term candidate) :
    VotesOnce (cast ++ more) voter term candidate := by
  intro ballot hBallot hVoter hTerm
  rcases List.mem_append.mp hBallot with hOld | hNew
  · exact hCast ballot hOld hVoter hTerm
  · exact hMore ballot hNew hVoter hTerm

/- New ballots must agree with the old and among themselves. -/
theorem Single.append (hCast : Single cast) (hMore : Single more)
    (hAgree : ∀ ballot ∈ more, VotesOnce cast ballot.voter ballot.term ballot.candidate) :
    Single (cast ++ more) := by
  intro ballot hBallot
  rcases List.mem_append.mp hBallot with hOld | hNew
  · refine (hCast ballot hOld).append ?_
    intro other hOther hVoter hTerm
    exact (hAgree other hOther ballot hOld hVoter.symm hTerm.symm).symm
  · exact (hAgree ballot hNew).append (hMore ballot hNew)

theorem Supported.append {candidate : V} {term : T} {votes : Finset V}
    (hCast : Supported cast candidate term votes) (hMore : VotesOnce more candidate term candidate)
      :
    Supported (cast ++ more) candidate term votes where
  counted := by
    intro voter hVoter
    rcases hCast.counted voter hVoter with hSelf | hBallot
    · exact Or.inl hSelf
    · exact Or.inr (List.mem_append_left more hBallot)
  loyal := hCast.loyal.append hMore

end

/- A candidate starts with its own vote. -/
theorem Supported.alone {cast : List (Ballot V T)} {candidate : V} {term : T}
    (hLoyal : VotesOnce cast candidate term candidate) :
    Supported cast candidate term {candidate} where
  counted := by
    intro voter hVoter
    exact Or.inl (Finset.mem_singleton.mp hVoter)
  loyal := hLoyal

/- It then counts a ballot that was cast for it. -/
theorem Supported.insert [DecidableEq V] {cast : List (Ballot V T)} {candidate voter : V} {term : T}
    {votes : Finset V} (hVotes : Supported cast candidate term votes)
    (hBallot : ⟨voter, term, candidate⟩ ∈ cast) :
    Supported cast candidate term (insert voter votes) where
  counted := by
    intro other hOther
    rcases Finset.mem_insert.mp hOther with hNew | hOld
    · exact Or.inr (hNew ▸ hBallot)
    · exact hVotes.counted other hOld
  loyal := hVotes.loyal

----
-- Winners
----

variable {cast : List (Ballot V T)} {first second : V} {term : T} {votes votes' : Finset V}

/- A shared voter makes two candidates of a term the same. -/
theorem Supported.unique {voter : V} (hSingle : Single cast)
    (hFirst : Supported cast first term votes) (hSecond : Supported cast second term votes')
    (hVoter : voter ∈ votes) (hVoter' : voter ∈ votes') : first = second := by
  rcases hFirst.counted voter hVoter with rfl | hBallot
  · rcases hSecond.counted voter hVoter' with hSelf | hBallot'
    · exact hSelf
    · exact (hFirst.loyal _ hBallot' rfl rfl).symm
  · rcases hSecond.counted voter hVoter' with rfl | hBallot'
    · exact hSecond.loyal _ hBallot rfl rfl
    · exact hSingle _ hBallot' _ hBallot rfl rfl

/- A term has at most one candidate with a majority. -/
theorem winner_unique [DecidableEq V] {whole : Finset V} (hSingle : Single cast)
    (hFirst : Supported cast first term votes)
    (hMajority : Quorum.StrictMajority votes whole)
    (hSecond : Supported cast second term votes')
    (hMajority' : Quorum.StrictMajority votes' whole) :
    first = second := by
  rcases hMajority.inter_nonempty hMajority' with ⟨voter, hVoter⟩
  rw [Finset.mem_inter] at hVoter
  exact Supported.unique hSingle hFirst hSecond hVoter.1 hVoter.2

end Ballots
