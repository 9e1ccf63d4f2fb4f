import Mathlib
import DockSubstrate.Master.Quorum

/-!
# Master along runs

`set_members` accepts only a membership that needs at least one vote and no more votes than
there are members, which the genesis asserts of the first membership; a proposal that
`execute` runs may itself be `set_members`, or another `execute`.  So along every run from
such a membership it stays so (`Membership.Valid`), and in every state of the run a proposal
runs only with the votes of at least one signer, all of them members
(`master_membership_valid`).

Every call moves the round on by some number of `+= 1`, and a successful `execute` by at
least one, once the proposal ran.  The round is a `u64` and wraps around, so in every later
state the round is the one the votes were cast in moved on by a positive count, reduced once;
below the wrap it is higher, and the votes' round is gone (`votes_expire_after_execute`).
-/

namespace DockSubstrate.MasterModule

open DockSubstrate.Lib DockSubstrate.Util DockSubstrate.DidModule

/-- A membership `set_members` accepts: at least one vote is needed, and no more than the
members can give. -/
def Membership.Valid (membership : Membership) : Prop :=
  membership.voteRequirement ≠ 0 ∧ membership.voteRequirement ≤ membership.members.card

variable {Other σ : Type} {crypto : SignatureVerification StateChange} {runtime : Runtime Other σ}

/-- One successful call of the runtime, from any origin. -/
def Step (crypto : SignatureVerification StateChange) (runtime : Runtime Other σ) (state next : State σ) : Prop :=
  ∃ origin call, dispatch crypto runtime origin call state = .ok next

/-- A successful `execute_` counted enough votes of members, dispatched the proposal, then
moved the round on; the membership is the one the proposal left. -/
theorem execute_eq_ok_dispatched {dispatchProposal : State σ → Except DispatchError (State σ)}
    {proposal : List Nat} {auth : List (WithNonce DidSignature)} {state next : State σ}
    (succeeded : execute_ crypto dispatchProposal proposal auth state = .ok next) :
    state.members.voteRequirement ≤ (signers auth).card ∧ signers auth ⊆ state.members.members ∧
      ∃ dispatched, dispatchProposal state = .ok dispatched ∧ next.round = wrappingIncU64 dispatched.round ∧
        next.members = dispatched.members := by
  cases collected : collectVotes crypto state proposal auth ∅ with
  | error error =>
      simp only [execute_, collected] at succeeded
      cases succeeded
  | ok votes =>
      rw [execute_eq_of_collectVotes collected] at succeeded
      -- a failed check is an error, which `split_ifs` discards
      split_ifs at succeeded with enough within
      obtain ⟨dispatched, ran, rfl⟩ := Except.map_eq_ok.mp succeeded
      exact ⟨enough, within, dispatched, ran, rfl, rfl⟩

theorem setMembers_eq_ok {membership : Membership} {state next : State σ}
    (succeeded : setMembers_ membership state = .ok next) :
    membership.Valid ∧ next = { state with members := membership, round := wrappingIncU64 state.round } := by
  unfold setMembers_ at succeeded
  by_cases zero : membership.voteRequirement = 0
  · simp [zero] at succeeded
  by_cases high : membership.voteRequirement ≤ membership.members.card
  · simp [zero, high, Except.pure_eq_ok] at succeeded
    exact ⟨⟨zero, high⟩, succeeded.symm⟩
  · simp [zero, high] at succeeded

/-- What a successful call does to the round and the membership: the round is moved on by some
number of `+= 1`, and the membership is the one it was or one `set_members` accepted.  By
induction on the call, whose proposals are calls. -/
theorem dispatch_round_members {origin : Origin} {call : RuntimeCall Other} {state next : State σ}
    (done : dispatch crypto runtime origin call state = .ok next) :
    (∃ advanced, next.round = wrappingIncU64^[advanced] state.round) ∧
      (next.members = state.members ∨ next.members.Valid) := by
  induction call generalizing origin state next with
  | execute proposal auth ih =>
      obtain ⟨⟨⟩, -, ran⟩ := Except.bind_eq_ok.mp done
      obtain ⟨-, -, dispatched, proposed, round, members⟩ := execute_eq_ok_dispatched ran
      obtain ⟨⟨advanced, moved⟩, kept⟩ := ih proposed
      refine ⟨⟨advanced + 1, ?_⟩, members ▸ kept⟩
      rw [round, moved, Function.iterate_succ_apply']
  | executeUncheckedWeight proposal auth weight ih =>
      obtain ⟨⟨⟩, -, ran⟩ := Except.bind_eq_ok.mp done
      obtain ⟨-, -, dispatched, proposed, round, members⟩ := execute_eq_ok_dispatched ran
      obtain ⟨⟨advanced, moved⟩, kept⟩ := ih proposed
      refine ⟨⟨advanced + 1, ?_⟩, members ▸ kept⟩
      rw [round, moved, Function.iterate_succ_apply']
  | setMembers membership =>
      obtain ⟨⟨⟩, -, ran⟩ := Except.bind_eq_ok.mp done
      obtain ⟨valid, rfl⟩ := setMembers_eq_ok ran
      exact ⟨⟨1, rfl⟩, .inr valid⟩
  | other call =>
      obtain ⟨⟨did, others⟩, -, written⟩ := Except.bind_eq_ok.mp done
      cases Except.pure_eq_ok.mp written
      exact ⟨⟨0, rfl⟩, .inl rfl⟩

/-- A successful `execute` moves the round on at least once past the one its votes were cast
in. -/
theorem dispatch_execute_round {origin : Origin} {proposal : RuntimeCall Other} {auth : List (WithNonce DidSignature)}
    {state next : State σ} (done : dispatch crypto runtime origin (.execute proposal auth) state = .ok next) :
    ∃ advanced, next.round = wrappingIncU64^[advanced + 1] state.round := by
  obtain ⟨⟨⟩, -, ran⟩ := Except.bind_eq_ok.mp done
  obtain ⟨-, -, dispatched, proposed, round, -⟩ := execute_eq_ok_dispatched ran
  obtain ⟨advanced, moved⟩ := (dispatch_round_members proposed).1
  refine ⟨advanced, ?_⟩
  rw [round, moved, Function.iterate_succ_apply']

/-- Along every run, the round is moved on by some number of `+= 1`. -/
theorem Step.round_iterate {state final : State σ} (run : Relation.ReflTransGen (Step crypto runtime) state final) :
    ∃ advanced, final.round = wrappingIncU64^[advanced] state.round := by
  induction run with
  | refl => exact ⟨0, rfl⟩
  | tail _ step moved =>
      obtain ⟨origin, call, done⟩ := step
      obtain ⟨before, movedBefore⟩ := moved
      obtain ⟨advanced, movedNow⟩ := (dispatch_round_members done).1
      refine ⟨advanced + before, ?_⟩
      rw [movedNow, movedBefore, Function.iterate_add_apply]

/-- Along every run from a valid membership, the membership stays valid; so in every state of
the run, a successful `execute` has at least one signer, and all its signers are members. -/
theorem master_membership_valid {state final : State σ} (valid : state.members.Valid)
    (run : Relation.ReflTransGen (Step crypto runtime) state final) :
    final.members.Valid ∧
      ∀ origin proposal auth next, dispatch crypto runtime origin (.execute proposal auth) final = .ok next →
        (signers auth).Nonempty ∧ signers auth ⊆ final.members.members := by
  -- the invariant: the membership is valid, by induction on the run
  have stays : final.members.Valid := by
    induction run with
    | refl => exact valid
    | tail _ step kept =>
        obtain ⟨origin, call, done⟩ := step
        rcases (dispatch_round_members done).2 with same | accepted
        · exact same ▸ kept
        · exact accepted
  refine ⟨stays, fun origin proposal auth next done => ?_⟩
  obtain ⟨⟨⟩, -, ran⟩ := Except.bind_eq_ok.mp done
  obtain ⟨enough, within, -⟩ := execute_eq_ok_dispatched ran
  -- at least one vote is needed, so the signers are not empty
  have counted : 0 < (signers auth).card := lt_of_lt_of_le (Nat.pos_of_ne_zero stays.1) enough
  exact ⟨Finset.card_pos.mp counted, within⟩

theorem master_membership_valid_soleMember :
    ∃ next, dispatch acceptAll onlyMaster (.signed 0)
        (.execute (.setMembers ⟨{⟨⟨0⟩⟩}, 1⟩) [⟨1, ⟨⟨0⟩, 1, .sr25519 0⟩⟩]) soleMember = .ok next ∧
      soleMember.members.Valid ∧ (next.members.Valid ∧
        ∀ origin proposal auth final, dispatch acceptAll onlyMaster origin (.execute proposal auth) next = .ok final →
          (signers auth).Nonempty ∧ signers auth ⊆ next.members.members) := by
  obtain ⟨next, done⟩ : ∃ next, dispatch acceptAll onlyMaster (.signed 0)
      (.execute (.setMembers ⟨{⟨⟨0⟩⟩}, 1⟩) [⟨1, ⟨⟨0⟩, 1, .sr25519 0⟩⟩]) soleMember = .ok next := ⟨_, rfl⟩
  have valid : soleMember.members.Valid := ⟨by decide, by decide⟩
  exact ⟨next, done, valid, master_membership_valid valid (.single ⟨.signed 0, _, done⟩)⟩

/-- The votes of a successful `execute` are for a round that every later state has left: along
every run after it, the round is the votes' round moved on by a positive count, as a `u64`, so
below the wrap it is higher than the round they were cast in. -/
theorem votes_expire_after_execute {origin : Origin} {proposal : RuntimeCall Other}
    {auth : List (WithNonce DidSignature)} {state next final : State σ}
    (done : dispatch crypto runtime origin (.execute proposal auth) state = .ok next)
    (later : Relation.ReflTransGen (Step crypto runtime) next final) :
    ∃ advanced, 0 < advanced ∧ final.round = (state.round + advanced) % 2 ^ 64 ∧
      (state.round + advanced < 2 ^ 64 → state.round < final.round) := by
  obtain ⟨executed, movedByExecute⟩ := dispatch_execute_round done
  obtain ⟨after, movedAfter⟩ := Step.round_iterate later
  -- the increments of the run and those of the call, at least one, compose
  have moved : final.round = (state.round + (after + executed + 1)) % 2 ^ 64 := by
    rw [movedAfter, movedByExecute, ← Function.iterate_add_apply, ← Nat.add_assoc, wrappingIncU64_iterate]
  refine ⟨after + executed + 1, Nat.succ_pos _, moved, fun below => ?_⟩
  rw [moved, Nat.mod_eq_of_lt below]
  omega

theorem votes_expire_after_execute_setMembers :
    ∃ next, dispatch acceptAll onlyMaster (.signed 0)
        (.execute (.setMembers ⟨{⟨⟨0⟩⟩}, 1⟩) [⟨1, ⟨⟨0⟩, 1, .sr25519 0⟩⟩]) soleMember = .ok next ∧
      ∃ advanced, 0 < advanced ∧ next.round = (soleMember.round + advanced) % 2 ^ 64 ∧
        (soleMember.round + advanced < 2 ^ 64 → soleMember.round < next.round) := by
  obtain ⟨next, done⟩ : ∃ next, dispatch acceptAll onlyMaster (.signed 0)
      (.execute (.setMembers ⟨{⟨⟨0⟩⟩}, 1⟩) [⟨1, ⟨⟨0⟩, 1, .sr25519 0⟩⟩]) soleMember = .ok next := ⟨_, rfl⟩
  exact ⟨next, done, votes_expire_after_execute done .refl⟩

end DockSubstrate.MasterModule
