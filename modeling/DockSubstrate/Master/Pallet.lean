import DockSubstrate.Common.SignedActionWithNonce

/-!
# Master

The master pallet (`modules/master`) simulates a multisig root account.  Its members are
DIDs.  A proposal, a call of the runtime, is run with the root origin once enough members have
signed a `MasterVote` for it, which carries the proposal's encoding and the current round.
`execute_` checks each vote against storage as it was before the call and gathers the signers'
details, their nonces moved on, in a map by signer.  It counts the votes on that map and
checks the signers are members.  Then it dispatches the proposal, moves the round on and
writes the gathered details back.  `set_members`, a root call, replaces the membership and
also moves the round on.  The round is a `u64`, and `*round += 1` wraps around in a release
build (`wrappingIncU64`).

The runtime's calls are Master's own and the calls of the other pallets, which are left
abstract: they see the DID pallet's storage and their own.
-/

namespace DockSubstrate.MasterModule

open DockSubstrate.Lib DockSubstrate.Util DockSubstrate.DidModule

/-- `Master`: a member, by its DID. -/
structure Master where
  did : Did
  deriving Repr

instance : LinearOrder Master := LinearOrder.lift' Master.did fun ⟨_⟩ ⟨_⟩ same => congrArg _ same

/-- `Membership`: the members, and how many of them must vote. -/
structure Membership where
  members : Finset Master
  voteRequirement : Nat

/-- `master::Error`. -/
inductive Error where
  | notMember
  | insufficientVotes
  | badSig
  | zeroVoteRequirement
  | voteRequirementTooHigh
  | incorrectNonce
  deriving DecidableEq, Repr

/-- Why a call of the runtime fails: an error of Master, of the DID pallet or of another
pallet (by the pallet's index and the error's), or a bad origin. -/
inductive DispatchError where
  | master (error : Error)
  | did (error : DidModule.Error)
  | module (index error : Nat)
  | badOrigin
  deriving DecidableEq, Repr

/-- `Members` and `Round`, a `u64`, with the storage of the DID pallet, which the votes are
checked against, and that of the other pallets. -/
structure State (σ : Type) where
  members : Membership
  round : Nat
  did : DidModule.State
  others : σ

/-- The origin of a call: the root, or an account that signed the extrinsic. -/
inductive Origin where
  | root
  | signed (account : Nat)
  deriving DecidableEq, Repr

/-- `ensure_signed`. -/
def ensureSigned : Origin → Except DispatchError Unit
  | .signed _ => pure ()
  | .root => throw .badOrigin

/-- `ensure_root`. -/
def ensureRoot : Origin → Except DispatchError Unit
  | .root => pure ()
  | .signed _ => throw .badOrigin

/-- `AuthorizeTarget for Master`: the trait's default, which accepts every key. -/
def ensureAuthorizesTarget : DidOrDidMethodKey → Except Empty Unit :=
  fun _ => pure ()

/-- `From<did::Error>` into a dispatch error; `Master`'s check never fails. -/
def liftAuthorizationError : DidModule.Error ⊕ Empty → DispatchError
  | .inl error => .did error
  | .inr never => never.elim

/-- `did::Pallet::insert_did_details`. -/
def insertDidDetails (did : Did) (details : WithNonce OnChainDidDetails) (state : DidModule.State) :
    DidModule.State :=
  { state with dids := Function.update state.dids did (some (.onChain details)) }

/-- The loop writing the gathered details back, in the order of the signers. -/
def writeDidDetails (newDidDetails : SortedMap Master (WithNonce OnChainDidDetails)) (state : DidModule.State) :
    DidModule.State :=
  newDidDetails.entries.foldl (fun state entry => insertDidDetails entry.1.did entry.2 state) state

section Execute

variable {σ : Type} (crypto : SignatureVerification StateChange)

/-- The loop over `auth` in `execute_`.  Each vote must be a signature of the `MasterVote` for
the proposal and the round, with the vote's nonce, that authorizes its signer (`BadSig` when it
does not verify).  The signer's on-chain details are read from storage, as it was before the
call, and must take the vote's nonce.  The details are gathered by signer, and a later vote of
a signer replaces an earlier one. -/
def collectVotes (state : State σ) (proposal : List Nat) :
    List (WithNonce DidSignature) → SortedMap Master (WithNonce OnChainDidDetails) →
      Except DispatchError (SortedMap Master (WithNonce OnChainDidDetails))
  | [], newDidDetails => pure newDidDetails
  | vote :: auth, newDidDetails => do
      let action := StateChange.masterVote proposal state.round vote.nonce
      let authorized ← (authorizesSignedAction crypto state.did (.didSignature vote.data) action
        ensureAuthorizesTarget).mapError liftAuthorizationError
      -- the `Authorization`'s signer is the signature's own
      let some _ := authorized | throw (.master .badSig)
      let signer : Master := ⟨vote.data.did⟩
      let didDetail ← (state.did.onchainDidDetails signer.did).mapError .did
      let didDetail ← (didDetail.tryUpdate vote.nonce).mapError fun _ => .master .incorrectNonce
      collectVotes state proposal auth (newDidDetails.insert signer didDetail)

/-- `Pallet::execute_`, given the encoding of the proposal and its dispatch with the root
origin.  The proposal runs once the votes are counted and the signers found to be members;
then the round moves on and the signers' details are written back.  A failed proposal fails
the call, whose writes are then dropped. -/
def execute_ (dispatchProposal : State σ → Except DispatchError (State σ)) (proposal : List Nat)
    (auth : List (WithNonce DidSignature)) (state : State σ) : Except DispatchError (State σ) := do
  let newDidDetails ← collectVotes crypto state proposal auth ∅
  let authors := newDidDetails.keys
  let membership := state.members
  unless membership.voteRequirement ≤ authors.length do throw (.master .insufficientVotes)
  unless authors.all fun author => decide (author ∈ membership.members) do throw (.master .notMember)
  let dispatched ← dispatchProposal state
  let dispatched := { dispatched with round := wrappingIncU64 dispatched.round }
  pure { dispatched with did := writeDidDetails newDidDetails dispatched.did }

end Execute

/-- `Pallet::set_members_`: a vote requirement of at least one and at most the members. -/
def setMembers_ {σ : Type} (membership : Membership) (state : State σ) : Except DispatchError (State σ) := do
  unless membership.voteRequirement ≠ 0 do throw (.master .zeroVoteRequirement)
  unless membership.voteRequirement ≤ membership.members.card do throw (.master .voteRequirementTooHigh)
  pure { state with members := membership, round := wrappingIncU64 state.round }

/-- The runtime's calls: Master's, whose proposals are runtime calls themselves, and those of
the other pallets. -/
inductive RuntimeCall (Other : Type) where
  | execute (proposal : RuntimeCall Other) (auth : List (WithNonce DidSignature))
  | executeUncheckedWeight (proposal : RuntimeCall Other) (auth : List (WithNonce DidSignature)) (weight : Nat)
  | setMembers (membership : Membership)
  | other (call : Other)

/-- What Master needs of the runtime: the encoding of a call, and the dispatch of the other
pallets' calls on the DID pallet's storage and their own. -/
structure Runtime (Other σ : Type) where
  encode : RuntimeCall Other → List Nat
  dispatchOther : Origin → Other → DidModule.State → σ → Except DispatchError (DidModule.State × σ)

variable {Other σ : Type} (crypto : SignatureVerification StateChange) (runtime : Runtime Other σ)

/-- The dispatch of a runtime call; Master's proposals bypass the call filter. -/
def dispatch (origin : Origin) : RuntimeCall Other → State σ → Except DispatchError (State σ)
  | .execute proposal auth, state => do
      ensureSigned origin
      execute_ crypto (dispatch .root proposal) (runtime.encode proposal) auth state
  | .executeUncheckedWeight proposal auth _, state => do
      ensureSigned origin
      execute_ crypto (dispatch .root proposal) (runtime.encode proposal) auth state
  | .setMembers membership, state => do
      ensureRoot origin
      setMembers_ membership state
  | .other call, state => do
      let (did, others) ← runtime.dispatchOther origin call state.did state.others
      pure { state with did, others }

end DockSubstrate.MasterModule
