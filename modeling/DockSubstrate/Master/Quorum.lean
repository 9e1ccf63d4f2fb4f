import DockSubstrate.Master.Pallet

/-!
# The quorum of Master

A vote counts when its signature authorizes its signer for the `MasterVote` of the proposal
and the current round, and its nonce is the one after the signer's stored nonce
(`ValidVote`).  All votes are checked against the storage as it was before the call, so two
votes of one signer count only when they carry the same nonce, and then once: the quorum is
counted on the set of signers (`Quorum`).

`collectVotes_eq_ok` is the loop's specification: it succeeds on exactly the lists of valid
votes, and gathers each signer's stored details with the next nonce.  `execute_quorum` puts it
together for `execute_`: without a quorum the call fails before the proposal runs; with one, the
call fails exactly when the proposal does; and after a successful call the round is one past
the round the proposal left, as a `u64` (so one more below `u64::MAX`), and every signer's
details carry the next nonce.  The round is one past the round before the call only when the
proposal leaves the round alone: `set_members` moves it on as well
(`execute_setMembers_advancesRoundTwice`).
-/

namespace DockSubstrate.MasterModule

open DockSubstrate.Lib DockSubstrate.Util DockSubstrate.DidModule

/-- The members that signed votes of a list, each once. -/
def signers (auth : List (WithNonce DidSignature)) : Finset Master :=
  (auth.map fun vote => (⟨vote.data.did⟩ : Master)).toFinset

/-- On-chain details with the next nonce. -/
def renewed (details : WithNonce OnChainDidDetails) : WithNonce OnChainDidDetails :=
  { details with nonce := details.nonce + 1 }

section Votes

variable {σ : Type} (crypto : SignatureVerification StateChange)

/-- A vote that counts: signed with a key of the signer that can authenticate or control, over
the `MasterVote` of the proposal and the round with the vote's nonce, which is the one after the
signer's stored nonce. -/
def ValidVote (state : State σ) (proposal : List Nat) (vote : WithNonce DidSignature) : Prop :=
  (∃ key, state.did.didKeys vote.data.did vote.data.keyId = some key ∧ key.canAuthenticateOrControl = true ∧
    vote.data.sig.verify crypto (.masterVote proposal state.round vote.nonce) key.publicKey = .ok true) ∧
  ∃ details, state.did.onchainDidDetails vote.data.did = .ok details ∧ vote.nonce = details.nonce + 1 ∧
    vote.nonce ≤ u32Max

/-- Valid votes by enough distinct signers, all of them members. -/
def Quorum (state : State σ) (proposal : List Nat) (auth : List (WithNonce DidSignature)) : Prop :=
  (∀ vote ∈ auth, ValidVote crypto state proposal vote) ∧
    state.members.voteRequirement ≤ (signers auth).card ∧ signers auth ⊆ state.members.members

variable {crypto}

theorem mem_signers {auth : List (WithNonce DidSignature)} {signer : Master} :
    signer ∈ signers auth ↔ ∃ vote ∈ auth, signer = ⟨vote.data.did⟩ := by
  simp [signers, eq_comm]

@[simp]
theorem signers_cons (vote : WithNonce DidSignature) (auth : List (WithNonce DidSignature)) :
    signers (vote :: auth) = insert ⟨vote.data.did⟩ (signers auth) := by
  simp [signers]

/-! ## The loop over the votes -/

/-- `Master`'s signature authorizes its DID when the key exists, can authenticate or control,
and the signature verifies. -/
theorem authorizesSignedAction_vote_eq_ok {didState : DidModule.State} {sig : DidSignature} {message : StateChange}
    {result : DidOrDidMethodKey} :
    (authorizesSignedAction crypto didState (.didSignature sig) message ensureAuthorizesTarget).mapError
        liftAuthorizationError = .ok (some result) ↔
      result = .did sig.did ∧ ∃ key, didState.didKeys sig.did sig.keyId = some key ∧
        key.canAuthenticateOrControl = true ∧ sig.sig.verify crypto message key.publicKey = .ok true := by
  rw [Except.mapError_eq_ok, authorizesSignedAction_didSignature_eq_ok]
  constructor
  · rintro ⟨key, found, authenticates, -, verified, verifies, signer⟩
    cases verified with
    | false => simp at signer
    | true => exact ⟨Option.some.inj signer, key, found, authenticates, verifies⟩
  · rintro ⟨rfl, key, found, authenticates, verifies⟩
    exact ⟨key, found, authenticates, rfl, true, verifies, rfl⟩

/-- One vote of the loop: it must be valid, and its signer's stored details are gathered with
the next nonce. -/
theorem collectVotes_cons_eq_ok {state : State σ} {proposal : List Nat} {vote : WithNonce DidSignature}
    {auth : List (WithNonce DidSignature)} {newDidDetails votes : SortedMap Master (WithNonce OnChainDidDetails)} :
    collectVotes crypto state proposal (vote :: auth) newDidDetails = .ok votes ↔
      (∃ key, state.did.didKeys vote.data.did vote.data.keyId = some key ∧ key.canAuthenticateOrControl = true ∧
        vote.data.sig.verify crypto (.masterVote proposal state.round vote.nonce) key.publicKey = .ok true) ∧
      ∃ details, state.did.onchainDidDetails vote.data.did = .ok details ∧ vote.nonce = details.nonce + 1 ∧
        vote.nonce ≤ u32Max ∧
        collectVotes crypto state proposal auth (newDidDetails.insert ⟨vote.data.did⟩ (renewed details)) = .ok votes := by
  simp only [collectVotes, Except.bind_eq_ok]
  constructor
  · rintro ⟨authorized, authorizes, run⟩
    cases authorized with
    | none => simp at run
    | some signer =>
        obtain ⟨-, key, found, authenticates, verifies⟩ := authorizesSignedAction_vote_eq_ok.mp authorizes
        simp only [Except.bind_eq_ok, Except.mapError_eq_ok, WithNonce.tryUpdate_eq_ok] at run
        obtain ⟨details, stored, updated, ⟨next, fits, rfl⟩, collected⟩ := run
        refine ⟨⟨key, found, authenticates, verifies⟩, details, stored, next, fits, ?_⟩
        rw [next] at collected
        exact collected
  · rintro ⟨⟨key, found, authenticates, verifies⟩, details, stored, next, fits, collected⟩
    refine ⟨some (.did vote.data.did), authorizesSignedAction_vote_eq_ok.mpr ⟨rfl, key, found, authenticates, verifies⟩, ?_⟩
    simp only [Except.bind_eq_ok, Except.mapError_eq_ok, WithNonce.tryUpdate_eq_ok]
    refine ⟨details, stored, _, ⟨next, fits, rfl⟩, ?_⟩
    rw [next]
    exact collected

/-- The loop succeeds on valid votes only, and gathers each signer's stored details with the
next nonce; the other entries are the ones it started with. -/
theorem collectVotes_eq_ok {state : State σ} {proposal : List Nat} {auth : List (WithNonce DidSignature)}
    {newDidDetails votes : SortedMap Master (WithNonce OnChainDidDetails)}
    (run : collectVotes crypto state proposal auth newDidDetails = .ok votes) :
    (∀ vote ∈ auth, ValidVote crypto state proposal vote) ∧
      ∀ signer, votes.get? signer =
        if signer ∈ signers auth then (state.did.onchainDidDetails signer.did).toOption.map renewed
        else newDidDetails.get? signer := by
  -- induction over the votes, the gathered map growing by one signer each step
  induction auth generalizing newDidDetails with
  | nil =>
      have same : newDidDetails = votes := Except.pure_eq_ok.mp run
      subst same
      simp [signers]
  | cons vote auth ih =>
      obtain ⟨signed, details, stored, next, fits, collected⟩ := collectVotes_cons_eq_ok.mp run
      obtain ⟨validRest, gathered⟩ := ih collected
      refine ⟨?_, fun signer => ?_⟩
      · rintro other (_ | ⟨_, later⟩)
        · exact ⟨signed, details, stored, next, fits⟩
        · exact validRest other later
      · rw [gathered]
        by_cases own : signer = ⟨vote.data.did⟩
        · subst own
          simp [stored, Except.toOption]
        · simp [own, SortedMap.get?_insert_of_ne _ _ own]

/-- On valid votes the loop succeeds. -/
theorem collectVotes_ok_of_valid {state : State σ} {proposal : List Nat} {auth : List (WithNonce DidSignature)}
    (valid : ∀ vote ∈ auth, ValidVote crypto state proposal vote)
    (newDidDetails : SortedMap Master (WithNonce OnChainDidDetails)) :
    ∃ votes, collectVotes crypto state proposal auth newDidDetails = .ok votes := by
  induction auth generalizing newDidDetails with
  | nil => exact ⟨newDidDetails, rfl⟩
  | cons vote auth ih =>
      obtain ⟨signed, details, stored, next, fits⟩ := valid vote List.mem_cons_self
      obtain ⟨votes, collected⟩ :=
        ih (fun other later => valid other (List.mem_cons_of_mem _ later))
          (newDidDetails.insert ⟨vote.data.did⟩ (renewed details))
      exact ⟨votes, collectVotes_cons_eq_ok.mpr ⟨signed, details, stored, next, fits, collected⟩⟩

/-- The signers the loop gathers from nothing are the signers of the votes. -/
theorem mem_keys_collectVotes {state : State σ} {proposal : List Nat} {auth : List (WithNonce DidSignature)}
    {votes : SortedMap Master (WithNonce OnChainDidDetails)} (run : collectVotes crypto state proposal auth ∅ = .ok votes)
    (signer : Master) : signer ∈ votes.keys ↔ signer ∈ signers auth := by
  obtain ⟨valid, gathered⟩ := collectVotes_eq_ok run
  rw [SortedMap.mem_keys, SortedMap.contains, gathered]
  by_cases signed : signer ∈ signers auth
  · obtain ⟨vote, cast, rfl⟩ := mem_signers.mp signed
    obtain ⟨-, details, stored, -⟩ := valid vote cast
    simp [signed, stored, Except.toOption]
  · simp [signed]

/-- The votes are counted once per signer. -/
theorem length_keys_collectVotes {state : State σ} {proposal : List Nat} {auth : List (WithNonce DidSignature)}
    {votes : SortedMap Master (WithNonce OnChainDidDetails)} (run : collectVotes crypto state proposal auth ∅ = .ok votes) :
    votes.keys.length = (signers auth).card := by
  have same : votes.keys.toFinset = signers auth := by
    ext signer
    rw [List.mem_toFinset, mem_keys_collectVotes run]
  rw [← same, List.toFinset_card_of_nodup (SortedMap.keys_nodup votes)]

end Votes

/-! ## Writing the details back -/

/-- The write-back loop stores each gathered signer's details and leaves the other DIDs. -/
theorem dids_writeDidDetails (newDidDetails : SortedMap Master (WithNonce OnChainDidDetails))
    (state : DidModule.State) (did : Did) :
    (writeDidDetails newDidDetails state).dids did =
      match newDidDetails.get? ⟨did⟩ with
      | some details => some (.onChain details)
      | none => state.dids did := by
  obtain ⟨entries, sorted⟩ := newDidDetails
  simp only [writeDidDetails, SortedMap.get?]
  have distinct := SortedMap.keys_nodup ⟨entries, sorted⟩
  simp only [SortedMap.keys] at distinct
  clear sorted
  -- induction over the entries: the keys are distinct, so one entry at most writes `did`
  induction entries generalizing state with
  | nil => rfl
  | cons entry rest ih =>
      obtain ⟨signer, details⟩ := entry
      obtain ⟨fresh, distinctRest⟩ := List.nodup_cons.mp distinct
      rw [List.foldl_cons, ih _ distinctRest, Entries.lookup_cons]
      by_cases own : (⟨did⟩ : Master) = signer
      · subst own
        have absent : Entries.lookup (⟨did⟩ : Master) rest = none :=
          Entries.lookup_eq_none_of_forall_ne fun other mem same => fresh (List.mem_map.mpr ⟨other, mem, same⟩)
        simp [absent, insertDidDetails]
      · have otherDid : did ≠ signer.did := fun same => own (by rw [same])
        cases Entries.lookup (⟨did⟩ : Master) rest <;> simp [own, insertDidDetails, otherDid]

/-! ## `execute_` -/

section Execute

variable {σ : Type} {crypto : SignatureVerification StateChange}

/-- Once the loop has gathered the votes, `execute_` counts the signers, checks they are members,
and only then runs the proposal. -/
theorem execute_eq_of_collectVotes {dispatchProposal : State σ → Except DispatchError (State σ)} {proposal : List Nat}
    {auth : List (WithNonce DidSignature)} {state : State σ} {votes : SortedMap Master (WithNonce OnChainDidDetails)}
    (run : collectVotes crypto state proposal auth ∅ = .ok votes) :
    execute_ crypto dispatchProposal proposal auth state =
      if state.members.voteRequirement ≤ (signers auth).card then
        if signers auth ⊆ state.members.members then
          (dispatchProposal state).map fun dispatched =>
            { dispatched with round := wrappingIncU64 dispatched.round, did := writeDidDetails votes dispatched.did }
        else .error (.master .notMember)
      else .error (.master .insufficientVotes) := by
  have counted := length_keys_collectVotes run
  have members : (votes.keys.all fun author => decide (author ∈ state.members.members)) =
      decide (signers auth ⊆ state.members.members) := by
    rw [Bool.eq_iff_iff, List.all_eq_true, decide_eq_true_iff]
    simp only [decide_eq_true_eq, mem_keys_collectVotes run]
    rfl
  simp only [execute_, run, Except.ok_bind, counted, members, decide_eq_true_eq]
  split_ifs
  · cases dispatchProposal state <;> rfl
  -- the failed checks throw before the proposal is dispatched
  all_goals rfl

/-- Master's quorum: `execute_` runs the proposal exactly when the votes make a quorum, and
fails as it does; after a successful call the round is one past the round the proposal left,
wrapping around at `u64::MAX` and one more below it, the membership is the one it left, and every signer's details are its stored ones with the next
nonce, however many of its votes the list held. -/
theorem execute_quorum (dispatchProposal : State σ → Except DispatchError (State σ)) (proposal : List Nat)
    (auth : List (WithNonce DidSignature)) (state : State σ) :
    (¬ Quorum crypto state proposal auth →
      ∃ error, ∀ dispatchOther : State σ → Except DispatchError (State σ),
        execute_ crypto dispatchOther proposal auth state = .error error) ∧
    (Quorum crypto state proposal auth → ∀ error,
      execute_ crypto dispatchProposal proposal auth state = .error error ↔ dispatchProposal state = .error error) ∧
    ∀ next, execute_ crypto dispatchProposal proposal auth state = .ok next →
      Quorum crypto state proposal auth ∧ ∃ dispatched, dispatchProposal state = .ok dispatched ∧
        next.round = wrappingIncU64 dispatched.round ∧ (dispatched.round < u64Max → next.round = dispatched.round + 1) ∧
        next.members = dispatched.members ∧
        ∀ signer ∈ signers auth, ∃ details, state.did.onchainDidDetails signer.did = .ok details ∧
          next.did.dids signer.did = some (.onChain (renewed details)) := by
  have failedLoop : ∀ error, collectVotes crypto state proposal auth ∅ = .error error →
      ∀ dispatchOther, execute_ crypto dispatchOther proposal auth state = .error error := by
    intro error failed dispatchOther
    simp only [execute_, failed]
    rfl
  refine ⟨fun noQuorum => ?_, fun quorum error => ?_, fun next succeeded => ?_⟩
  · cases collected : collectVotes crypto state proposal auth ∅ with
    | error error => exact ⟨error, failedLoop error collected⟩
    | ok votes =>
        have valid := (collectVotes_eq_ok collected).1
        by_cases enough : state.members.voteRequirement ≤ (signers auth).card
        · have strangers : ¬ signers auth ⊆ state.members.members := fun within =>
            noQuorum ⟨valid, enough, within⟩
          refine ⟨.master .notMember, fun dispatchOther => ?_⟩
          rw [execute_eq_of_collectVotes collected, if_pos enough, if_neg strangers]
        · refine ⟨.master .insufficientVotes, fun dispatchOther => ?_⟩
          rw [execute_eq_of_collectVotes collected, if_neg enough]
  · obtain ⟨valid, enough, within⟩ := quorum
    obtain ⟨votes, collected⟩ := collectVotes_ok_of_valid valid ∅
    rw [execute_eq_of_collectVotes collected, if_pos enough, if_pos within]
    cases dispatchProposal state <;> simp [Except.map]
  · cases collected : collectVotes crypto state proposal auth ∅ with
    | error error =>
        rw [failedLoop error collected] at succeeded
        cases succeeded
    | ok votes =>
        obtain ⟨valid, gathered⟩ := collectVotes_eq_ok collected
        rw [execute_eq_of_collectVotes collected] at succeeded
        -- a failed check is an error, which `split_ifs` discards
        split_ifs at succeeded with enough within
        obtain ⟨dispatched, ran, rfl⟩ := Except.map_eq_ok.mp succeeded
        refine ⟨⟨valid, enough, within⟩, dispatched, ran, rfl, wrappingIncU64_of_lt, rfl, fun signer signed => ?_⟩
        obtain ⟨vote, cast, rfl⟩ := mem_signers.mp signed
        obtain ⟨-, details, stored, -⟩ := valid vote cast
        refine ⟨details, stored, ?_⟩
        rw [dids_writeDidDetails, gathered, if_pos signed]
        simp [stored, Except.toOption]

end Execute

/-- One member, DID `0` with a control key and nonce `0`, whose vote suffices. -/
def soleMember : State Unit :=
  ⟨⟨{⟨⟨0⟩⟩}, 1⟩, 0, genesis [(⟨0⟩, controlKey 0)], ()⟩

/-- A runtime of Master alone. -/
def onlyMaster : Runtime Empty Unit :=
  ⟨fun _ => [], fun _ call _ _ => call.elim⟩

theorem execute_quorum_soleMember :
    Quorum acceptAll soleMember [] [⟨1, ⟨⟨0⟩, 1, .sr25519 0⟩⟩] ∧
    ∀ error, execute_ acceptAll (setMembers_ ⟨{⟨⟨0⟩⟩}, 1⟩) [] [⟨1, ⟨⟨0⟩, 1, .sr25519 0⟩⟩] soleMember = .error error ↔
      setMembers_ ⟨{⟨⟨0⟩⟩}, 1⟩ soleMember = .error error := by
  have valid : ValidVote acceptAll soleMember [] ⟨1, ⟨⟨0⟩, 1, .sr25519 0⟩⟩ :=
    ⟨⟨controlKey 0, rfl, rfl, rfl⟩, ⟨0, ⟨1, 1, 1⟩⟩, rfl, rfl, by decide⟩
  have quorum : Quorum acceptAll soleMember [] [⟨1, ⟨⟨0⟩, 1, .sr25519 0⟩⟩] :=
    ⟨by simpa using valid, by decide, by decide⟩
  exact ⟨quorum, (execute_quorum _ _ _ _).2.1 quorum⟩

/-- A proposal of `set_members` moves the round on twice: once as the proposal, once after it. -/
theorem execute_setMembers_advancesRoundTwice :
    ∃ next, dispatch acceptAll onlyMaster (.signed 0)
        (.execute (.setMembers ⟨{⟨⟨0⟩⟩}, 1⟩) [⟨1, ⟨⟨0⟩, 1, .sr25519 0⟩⟩]) soleMember = .ok next ∧
      next.round = soleMember.round + 2 :=
  ⟨_, rfl, rfl⟩

end DockSubstrate.MasterModule
