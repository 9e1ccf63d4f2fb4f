import Mathlib
import DockSubstrate.OffchainSignatures.Params
import DockSubstrate.Did.Counters

/-!
# Keys and the parameters they name

An off-chain public key may name the parameters it was made with; `add_public_key` checks
(`OffchainPublicKey::ensure_valid`) that they exist and are of the key's scheme.  The
parameters can be removed afterwards, but an identifier is never handed out twice:
`add_params` stores under the owner's next counter value.  So along every run of the DID
pallet and the parameters calls from genesis whose counters fit a `u32`, every public key
names parameters its owner's counter handed out, and has their scheme as long as they are
stored (`offchain_keys_match_params`).

The DID calls are taken apart once for what they do to `SignatureParams` and `PublicKeys`
(`ParamsFrame`): they leave the parameters, and hold only keys that were stored or passed
`ensure_valid`.  And only an owner's own calls change its parameters and its counter
(`params_kept_without_owner`).
-/

namespace DockSubstrate.OffchainSignaturesModule

open DockSubstrate.Lib DockSubstrate.Util DockSubstrate.Common DockSubstrate.DidModule

/-! ## What the DID calls do to keys and parameters -/

/-- What a DID call may do to the off-chain keys and parameters: leave `SignatureParams`,
and hold only public keys that were stored or that passed `ensure_valid` against the state
it started from. -/
def ParamsFrame (state next : DidModule.State) : Prop :=
  next.signatureParams = state.signatureParams ∧
    ∀ did keyId key, next.publicKeys did keyId = some key →
      state.publicKeys did keyId = some key ∨ OffchainPublicKey.ensureValid key state = .ok ()

/-- What a body run on the details of a DID does to the off-chain keys and parameters. -/
def BodyParamsFrame (f : OnDetails) : Prop :=
  ∀ details state data after, f details state = .ok (data, after) → ParamsFrame state after

section Frame

variable {state next : DidModule.State}

/-- A call that leaves the parameters and only removes public keys. -/
theorem ParamsFrame.of_kept (params : next.signatureParams = state.signatureParams)
    (kept : ∀ did keyId key, next.publicKeys did keyId = some key → state.publicKeys did keyId = some key) :
    ParamsFrame state next :=
  ⟨params, fun did keyId key found => .inl (kept did keyId key found)⟩

/-- A call that leaves both the parameters and the public keys. -/
theorem ParamsFrame.of_eq (params : next.signatureParams = state.signatureParams)
    (keys : next.publicKeys = state.publicKeys) : ParamsFrame state next :=
  .of_kept params fun _ _ _ found => keys ▸ found

/-- A key that passed `ensure_valid` names stored parameters of its scheme. -/
theorem ensureValid_paramsRef {key : OffchainPublicKey} (valid : OffchainPublicKey.ensureValid key state = .ok ())
    {owner : DidOrDidMethodKey} {paramsId : Nat} (named : key.paramsRef = some (owner, paramsId)) :
    state.signatureParams owner paramsId = some key.scheme := by
  unfold OffchainPublicKey.ensureValid at valid
  rw [named] at valid
  cases stored : state.signatureParams owner paramsId with
  | none => simp [stored] at valid
  | some scheme =>
      simp only [stored] at valid
      split_ifs at valid with same
      · rw [same]

theorem bodyParamsFrame_onExisting {ε : Type} {lift : ε → DispatchError}
    {body : OnChainDidDetails → DidModule.State → Except ε (OnChainDidDetails × DidModule.State)}
    (frame : ∀ {details state updated after}, body details state = .ok (updated, after) → ParamsFrame state after) :
    BodyParamsFrame (onExisting lift body) := by
  intro details state data after ran
  cases details with
  | none => simp [onExisting] at ran
  | some details =>
      obtain ⟨updated, ranBody, -⟩ := onExisting_some_eq_ok.mp ran
      exact frame ranBody

variable {details updated : OnChainDidDetails}

theorem addKeys_paramsFrame {action : AddKeys} (ran : addKeys_ action details state = .ok (updated, next)) :
    ParamsFrame state next := by
  simp only [addKeys_, Except.bind_eq_ok, Except.pure_eq_ok, Prod.mk.injEq] at ran
  obtain ⟨keys, -, -, rfl⟩ := ran
  exact .of_eq rfl rfl

theorem removeKeys_paramsFrame {action : RemoveKeys} (ran : removeKeys_ action details state = .ok (updated, next)) :
    ParamsFrame state next := by
  simp only [removeKeys_, Except.bind_eq_ok, Except.pure_eq_ok, Prod.mk.injEq] at ran
  obtain ⟨count, -, -, rfl⟩ := ran
  exact .of_eq rfl rfl

theorem addControllers_paramsFrame {action : AddControllers}
    (ran : addControllers_ action details state = .ok (updated, next)) : ParamsFrame state next := by
  unfold addControllers_ at ran
  split_ifs at ran <;> simp at ran
  obtain ⟨-, rfl⟩ := ran
  exact .of_eq rfl rfl

theorem removeControllers_paramsFrame {action : RemoveControllers}
    (ran : removeControllers_ action details state = .ok (updated, next)) : ParamsFrame state next := by
  unfold removeControllers_ at ran
  split_ifs at ran <;> simp at ran
  obtain ⟨-, rfl⟩ := ran
  exact .of_eq rfl rfl

theorem addServiceEndpoint_paramsFrame {action : AddServiceEndpoint}
    (ran : addServiceEndpoint_ action details state = .ok (updated, next)) : ParamsFrame state next := by
  unfold addServiceEndpoint_ at ran
  split_ifs at ran <;> simp at ran
  obtain ⟨-, rfl⟩ := ran
  exact .of_eq rfl rfl

theorem removeServiceEndpoint_paramsFrame {action : RemoveServiceEndpoint}
    (ran : removeServiceEndpoint_ action details state = .ok (updated, next)) : ParamsFrame state next := by
  unfold removeServiceEndpoint_ at ran
  split_ifs at ran <;> simp at ran
  obtain ⟨-, rfl⟩ := ran
  exact .of_eq rfl rfl

/-- `add_public_key_` stores one key, which passed `ensure_valid`. -/
theorem addPublicKey_paramsFrame {action : AddOffchainSignaturePublicKey}
    (ran : addPublicKey_ action details state = .ok (updated, next)) : ParamsFrame state next := by
  simp only [addPublicKey_, Except.bind_eq_ok, Except.pure_eq_ok, Prod.mk.injEq] at ran
  obtain ⟨_, valid, -, rfl⟩ := ran
  refine ⟨rfl, fun did keyId key found => ?_⟩
  simp only [update₂_apply] at found
  split_ifs at found
  · cases found
    exact .inr valid
  · exact .inl found

theorem removePublicKey_paramsFrame {action : RemoveOffchainSignaturePublicKey}
    (ran : removePublicKey_ action details state = .ok (updated, next)) : ParamsFrame state next := by
  unfold removePublicKey_ at ran
  split_ifs at ran <;> simp at ran
  obtain ⟨-, rfl⟩ := ran
  refine .of_kept rfl fun did keyId key found => ?_
  simp only [update₂_apply] at found
  split_ifs at found
  exact found

/-- `remove_onchain_did_` keeps of the DID's public keys only what `clear_prefix` leaves. -/
theorem removeOnchainDid_paramsFrame (backend : Backend) (action : DidRemoval) :
    BodyParamsFrame fun details state => (removeOnchainDid_ backend action details state).mapError .did := by
  intro details state data after ran
  cases details with
  | none => simp [removeOnchainDid_] at ran
  | some details =>
      simp only [removeOnchainDid_, Except.mapError_eq_ok, Except.pure_eq_ok, Prod.mk.injEq] at ran
      obtain ⟨rfl, rfl⟩ := ran
      refine .of_kept rfl fun did keyId key found => ?_
      by_cases removed : did = action.did
      · subst removed
        dsimp only at found
        rw [Function.update_self] at found
        have left : backend.publicKeys.left u32Max (state.publicKeys action.did) keyId ≠ none := by
          rw [found]
          exact Option.some_ne_none key
        rw [← backend.publicKeys.left_of_ne left]
        exact found
      · dsimp only at found
        rwa [Function.update_of_ne removed] at found

variable {crypto : SignatureVerification StateChange} {backend : Backend}

/-- A call signed by a controller does what its body does to keys and parameters: the
nonces it renews are in `Dids` and `DidMethodKeys`. -/
theorem executeRemovableFromController_paramsFrame {len : Nat} {target : Did} {nonce : Nat}
    {message : StateChange} {f : OnDetails} {signature : DidOrDidMethodKeySignature} (frame : BodyParamsFrame f)
    (ran : executeRemovableFromController crypto len target nonce message f signature state = .ok next) :
    ParamsFrame state next := by
  obtain ⟨⟨signer⟩, authorized⟩ := authorized_of_executeRemovableFromController ran
  cases signer with
  | did controller =>
      by_cases self : controller = target
      · subst self
        obtain ⟨-, details, -, -, -, data, after, body, rfl⟩ := (executeRemovableFromController_self authorized).mp ran
        exact (frame _ _ _ _ body : ParamsFrame state after)
      · obtain ⟨-, details, -, -, -, targetDetails, -, data, after, body, rfl⟩ :=
          (executeRemovableFromController_other authorized self).mp ran
        exact (frame _ _ _ _ body : ParamsFrame state after)
  | didMethodKey key =>
      obtain ⟨-, stored, -, -, -, targetDetails, -, data, after, body, rfl⟩ :=
        (executeRemovableFromController_key authorized).mp ran
      exact (frame _ _ _ _ body : ParamsFrame state after)

/-- Every successful DID call leaves the parameters, and holds only public keys that were
stored or passed `ensure_valid`. -/
theorem didDispatch_paramsFrame {call : DidModule.Call} (done : DidModule.dispatch crypto backend call state = .ok next) :
    ParamsFrame state next := by
  cases call with
  | newOffchain caller did docRef =>
      obtain ⟨-, rfl⟩ := newOffchain_eq_ok.mp (Except.mapError_eq_ok.mp done)
      exact .of_eq rfl rfl
  | setOffchainDidDocRef caller did docRef =>
      obtain ⟨details, -, -, rfl⟩ := setOffchainDidDocRef_eq_ok.mp (Except.mapError_eq_ok.mp done)
      exact .of_eq rfl rfl
  | removeOffchainDid caller did =>
      obtain ⟨details, -, -, rfl⟩ := removeOffchainDid_eq_ok.mp (Except.mapError_eq_ok.mp done)
      exact .of_eq rfl rfl
  | newOnchain did keys controllers =>
      obtain ⟨-, -, -, -, rfl⟩ := newOnchain_eq_ok (Except.mapError_eq_ok.mp done)
      exact .of_eq rfl rfl
  | addKeys action sig =>
      exact executeRemovableFromController_paramsFrame (bodyParamsFrame_onExisting addKeys_paramsFrame) done
  | removeKeys action sig =>
      exact executeRemovableFromController_paramsFrame (bodyParamsFrame_onExisting removeKeys_paramsFrame) done
  | addControllers action sig =>
      exact executeRemovableFromController_paramsFrame (bodyParamsFrame_onExisting addControllers_paramsFrame) done
  | removeControllers action sig =>
      exact executeRemovableFromController_paramsFrame (bodyParamsFrame_onExisting removeControllers_paramsFrame)
        done
  | addServiceEndpoint action sig =>
      exact executeRemovableFromController_paramsFrame (bodyParamsFrame_onExisting addServiceEndpoint_paramsFrame)
        done
  | removeServiceEndpoint action sig =>
      exact executeRemovableFromController_paramsFrame
        (bodyParamsFrame_onExisting removeServiceEndpoint_paramsFrame) done
  | removeOnchainDid action sig =>
      exact executeRemovableFromController_paramsFrame (removeOnchainDid_paramsFrame backend action) done
  | newDidMethodKey didKey =>
      obtain ⟨-, rfl⟩ := newDidMethodKey_eq_ok.mp (Except.mapError_eq_ok.mp done)
      exact .of_eq rfl rfl
  | addPublicKey action sig =>
      exact executeRemovableFromController_paramsFrame (bodyParamsFrame_onExisting addPublicKey_paramsFrame) done
  | removePublicKey action sig =>
      exact executeRemovableFromController_paramsFrame (bodyParamsFrame_onExisting removePublicKey_paramsFrame) done

end Frame

/-! ## Keys name parameters of their scheme -/

/-- Every parameters identifier in use is one its owner's counter handed out. -/
def ParamsBelow (did : DidModule.State) (state : State) : Prop :=
  ∀ owner, IdsBelow (did.signatureParams owner) (state.paramsCounter owner)

/-- Every off-chain public key names parameters its owner's counter handed out, and has
their scheme as long as they are stored. -/
def KeysMatchParams (did : DidModule.State) (state : State) : Prop :=
  ∀ keyOwner keyId key, did.publicKeys keyOwner keyId = some key →
    ∀ owner paramsId, key.paramsRef = some (owner, paramsId) →
      paramsId ≤ state.paramsCounter owner ∧ ∀ scheme, did.signatureParams owner paramsId = some scheme → scheme = key.scheme

/-- The off-chain keys and parameters of the DID pallet's storage, against the counters. -/
structure Consistent (chain : WithDid State) : Prop where
  paramsBelow : ParamsBelow chain.did chain.pallet
  keysMatch : KeysMatchParams chain.did chain.pallet

/-- The calls whose counter fits: past `u32::MAX`, `IncId::inc` wraps to identifiers in use. -/
def Call.Fits (state : State) : Call → Prop
  | .addParams _ signature => state.paramsCounter signature.signer < u32Max
  | .removeParams _ _ => True

/-- An event fits when, as a parameters call, it fits. -/
def Fits (chain : WithDid State) : WithDid.Event Call → Prop
  | .did _ => True
  | .pallet call => call.Fits chain.pallet

section Invariant

variable {crypto : SignatureVerification StateChange} {backend : Backend} {encode : Action → StateChange}
  {did did' : DidModule.State} {state state' : State}

/-- A DID call keeps the invariant: it leaves the parameters and the counters, and a key it
stores passed `ensure_valid`, so it names stored parameters of its scheme. -/
theorem Consistent.of_paramsFrame (inv : Consistent ⟨did, state⟩) (frame : ParamsFrame did did') :
    Consistent ⟨did', state⟩ := by
  obtain ⟨params, keys⟩ := frame
  constructor
  · intro owner
    dsimp only
    rw [params]
    exact inv.paramsBelow owner
  · intro keyOwner keyId key found owner paramsId named
    dsimp only at found ⊢
    rw [params]
    rcases keys keyOwner keyId key found with old | valid
    · exact inv.keysMatch keyOwner keyId key old owner paramsId named
    · have stored := ensureValid_paramsRef valid named
      refine ⟨(inv.paramsBelow owner paramsId key.scheme stored).2, fun scheme found => ?_⟩
      rw [stored] at found
      exact (Option.some.inj found).symm

/-- `add_params` keeps the invariant when its signer's counter fits: the identifier it
hands out is above every one in use and every one a key names. -/
theorem Consistent.addParams {action : AddOffchainSignatureParams} {signature : DidOrDidMethodKeySignature}
    (inv : Consistent ⟨did, state⟩) (fits : state.paramsCounter signature.signer < u32Max)
    (done : dispatch crypto encode (.addParams action signature) did state = .ok (did', state')) :
    Consistent ⟨did', state'⟩ := by
  obtain ⟨current, -, -, -, rfl, rfl⟩ := dispatch_addParams done
  rw [wrappingInc_of_lt fits]
  constructor
  · intro owner
    dsimp only
    by_cases signer : owner = signature.signer
    · subst signer
      rw [update₂_same, Function.update_self]
      exact (inv.paramsBelow _).store_next action.params
    · rw [update₂_of_ne signer, Function.update_of_ne signer]
      exact inv.paramsBelow owner
  · intro keyOwner keyId key found owner paramsId named
    dsimp only at found ⊢
    rw [writeSigner_publicKeys] at found
    obtain ⟨below, scheme⟩ := inv.keysMatch keyOwner keyId key found owner paramsId named
    dsimp only at below scheme
    have fresh : ¬(owner = signature.signer ∧ paramsId = state.paramsCounter signature.signer + 1) := by
      rintro ⟨rfl, rfl⟩
      omega
    have grown : state.paramsCounter owner ≤
        Function.update state.paramsCounter signature.signer (state.paramsCounter signature.signer + 1) owner := by
      by_cases signer : owner = signature.signer
      · subst signer
        simp
      · simp [Function.update_of_ne signer]
    refine ⟨below.trans grown, fun stored found => scheme stored ?_⟩
    simpa [update₂_apply, fresh] using found

/-- `remove_params` keeps the invariant: it only removes parameters. -/
theorem Consistent.removeParams {action : RemoveOffchainSignatureParams} {signature : DidOrDidMethodKeySignature}
    (inv : Consistent ⟨did, state⟩)
    (done : dispatch crypto encode (.removeParams action signature) did state = .ok (did', state')) :
    Consistent ⟨did', state'⟩ := by
  obtain ⟨-, -, current, -, -, -, rfl, rfl⟩ := dispatch_removeParams done
  constructor
  · intro owner
    dsimp only
    by_cases removed : owner = action.paramsRef.1
    · subst removed
      rw [update₂_same]
      exact (inv.paramsBelow _).erase action.paramsRef.2
    · rw [update₂_of_ne removed]
      exact inv.paramsBelow owner
  · intro keyOwner keyId key found owner paramsId named
    dsimp only at found ⊢
    rw [writeSigner_publicKeys] at found
    obtain ⟨below, scheme⟩ := inv.keysMatch keyOwner keyId key found owner paramsId named
    refine ⟨below, fun stored found => scheme stored ?_⟩
    simp only [update₂_apply] at found
    split_ifs at found
    exact found

/-- A parameters call that fits keeps the invariant. -/
theorem Consistent.of_dispatch {call : Call} (inv : Consistent ⟨did, state⟩) (fits : call.Fits state)
    (done : dispatch crypto encode call did state = .ok (did', state')) : Consistent ⟨did', state'⟩ := by
  cases call with
  | addParams action signature => exact inv.addParams fits done
  | removeParams action signature => exact inv.removeParams done

/-- Every event that fits keeps the invariant. -/
theorem Consistent.apply {chain : WithDid State} {event : WithDid.Event Call} (inv : Consistent chain)
    (fits : Fits chain event) : Consistent (chain.apply crypto backend (dispatch crypto encode) event) :=
  WithDid.apply_invariant
    (fun _ _ _ done => Consistent.of_paramsFrame inv (didDispatch_paramsFrame done))
    (fun call named _ _ done => inv.of_dispatch (by subst named; exact fits) done)
    inv

/-- The genesis holds no parameters and no public keys. -/
theorem genesis_consistent (config : List (Did × DidKey)) : Consistent ⟨DidModule.genesis config, initial⟩ := by
  have empty : Consistent ⟨DidModule.State.empty, initial⟩ :=
    ⟨fun _ => IdsBelow.of_none 0, fun _ _ _ found => by cases found⟩
  unfold DidModule.genesis
  generalize DidModule.State.empty = init at empty ⊢
  -- the genesis writes only `Dids`, `DidKeys` and `DidControllers`
  induction config generalizing init with
  | nil => exact empty
  | cons entry rest ih =>
      obtain ⟨did, key⟩ := entry
      exact ih _ ⟨empty.paramsBelow, empty.keysMatch⟩

/-- Along every run of DID calls and parameters calls from genesis whose counters fit, every
off-chain public key names parameters its owner's counter handed out, and has the scheme of
those parameters whenever they are stored. -/
theorem offchain_keys_match_params (config : List (Did × DidKey)) (events : List (WithDid.Event Call))
    (fitting : FitsAlong (WithDid.apply crypto backend (dispatch crypto encode)) Fits ⟨DidModule.genesis config, initial⟩ events)
    {keyOwner : Did} {keyId : Nat} {key : OffchainPublicKey}
    (found : (Lib.run (WithDid.apply crypto backend (dispatch crypto encode)) ⟨DidModule.genesis config, initial⟩ events).did.publicKeys
      keyOwner keyId = some key)
    {owner : DidOrDidMethodKey} {paramsId : Nat} (named : key.paramsRef = some (owner, paramsId)) :
    paramsId ≤ (Lib.run (WithDid.apply crypto backend (dispatch crypto encode)) ⟨DidModule.genesis config, initial⟩
        events).pallet.paramsCounter owner ∧
      ∀ scheme, (Lib.run (WithDid.apply crypto backend (dispatch crypto encode)) ⟨DidModule.genesis config, initial⟩
        events).did.signatureParams owner paramsId = some scheme → scheme = key.scheme :=
  (@run_invariant_of_fits _ _ (WithDid.apply crypto backend (dispatch crypto encode)) Consistent Fits
    (fun _ _ fits inv => inv.apply fits) _ _ fitting (genesis_consistent config)).keysMatch
      keyOwner keyId key found owner paramsId named

theorem offchain_keys_match_params_addPublicKey :
    FitsAlong (WithDid.apply acceptAll .byEncoding (dispatch acceptAll fun _ => .masterVote [] 0 0)) Fits
        ⟨DidModule.genesis [(⟨0⟩, controlKey 0)], initial⟩
        [.pallet (.addParams ⟨.bbs, 1⟩ (.didSignature ⟨⟨0⟩, 1, .sr25519 0⟩)),
          .did (.addPublicKey ⟨⟨.bbs, some (.did ⟨0⟩, 1)⟩, ⟨0⟩, 2⟩ (.didSignature ⟨⟨0⟩, 1, .sr25519 0⟩))] ∧
      (Lib.run (WithDid.apply acceptAll .byEncoding (dispatch acceptAll fun _ => .masterVote [] 0 0))
          ⟨DidModule.genesis [(⟨0⟩, controlKey 0)], initial⟩
          [.pallet (.addParams ⟨.bbs, 1⟩ (.didSignature ⟨⟨0⟩, 1, .sr25519 0⟩)),
            .did (.addPublicKey ⟨⟨.bbs, some (.did ⟨0⟩, 1)⟩, ⟨0⟩, 2⟩ (.didSignature ⟨⟨0⟩, 1, .sr25519 0⟩))]).did.publicKeys
        ⟨0⟩ 2 = some ⟨.bbs, some (.did ⟨0⟩, 1)⟩ ∧
      1 ≤ (Lib.run (WithDid.apply acceptAll .byEncoding (dispatch acceptAll fun _ => .masterVote [] 0 0))
          ⟨DidModule.genesis [(⟨0⟩, controlKey 0)], initial⟩
          [.pallet (.addParams ⟨.bbs, 1⟩ (.didSignature ⟨⟨0⟩, 1, .sr25519 0⟩)),
            .did (.addPublicKey ⟨⟨.bbs, some (.did ⟨0⟩, 1)⟩, ⟨0⟩, 2⟩ (.didSignature ⟨⟨0⟩, 1, .sr25519 0⟩))]).pallet.paramsCounter
        (.did ⟨0⟩) := by
  have fitting : FitsAlong (WithDid.apply acceptAll .byEncoding (dispatch acceptAll fun _ => .masterVote [] 0 0)) Fits
      ⟨DidModule.genesis [(⟨0⟩, controlKey 0)], initial⟩
      [.pallet (.addParams ⟨.bbs, 1⟩ (.didSignature ⟨⟨0⟩, 1, .sr25519 0⟩)),
        .did (.addPublicKey ⟨⟨.bbs, some (.did ⟨0⟩, 1)⟩, ⟨0⟩, 2⟩ (.didSignature ⟨⟨0⟩, 1, .sr25519 0⟩))] :=
    .cons (show 0 < u32Max by decide) (.cons trivial (.nil _))
  exact ⟨fitting, rfl,
    (@offchain_keys_match_params acceptAll _ _ _ _ fitting ⟨0⟩ 2 ⟨.bbs, some (.did ⟨0⟩, 1)⟩ rfl (.did ⟨0⟩) 1 rfl).1⟩

/-- A call signed by another leaves an owner's parameters and counter: `add_params` writes
under its signer, and `remove_params_` removes only the signer's own parameters. -/
theorem dispatch_other_owner {call : Call} (done : dispatch crypto encode call did state = .ok (did', state'))
    {owner : DidOrDidMethodKey} (other : call.signer ≠ owner) :
    did'.signatureParams owner = did.signatureParams owner ∧ state'.paramsCounter owner = state.paramsCounter owner := by
  cases call with
  | addParams action signature =>
      obtain ⟨current, -, -, -, rfl, rfl⟩ := dispatch_addParams done
      exact ⟨update₂_of_ne (Ne.symm other) _ _, Function.update_of_ne (Ne.symm other) _ _⟩
  | removeParams action signature =>
      obtain ⟨named, -, current, -, -, -, rfl, rfl⟩ := dispatch_removeParams done
      have differs : owner ≠ action.paramsRef.1 := by
        rw [named]
        exact Ne.symm other
      exact ⟨update₂_of_ne differs _ _, rfl⟩

/-- Every event keeps an owner's parameters and counter, unless it is a parameters call the
owner signs. -/
theorem apply_other_owner {chain : WithDid State} {event : WithDid.Event Call} {owner : DidOrDidMethodKey}
    (other : ∀ call, event = .pallet call → call.signer ≠ owner) :
    (chain.apply crypto backend (dispatch crypto encode) event).did.signatureParams owner = chain.did.signatureParams owner ∧
      (chain.apply crypto backend (dispatch crypto encode) event).pallet.paramsCounter owner =
        chain.pallet.paramsCounter owner := by
  refine @WithDid.apply_invariant _ _ _ crypto backend (dispatch crypto encode)
    (fun next => next.did.signatureParams owner = chain.did.signatureParams owner ∧
      next.pallet.paramsCounter owner = chain.pallet.paramsCounter owner) chain event ?_ ?_ ⟨rfl, rfl⟩
  · intro call _ next done
    exact ⟨congrFun (didDispatch_paramsFrame done).1 owner, rfl⟩
  · intro call named did' state' done
    exact dispatch_other_owner done (other call named)

/-- Along any run from any state, an owner that signs none of the parameters calls keeps its
parameters and its counter, whatever DID calls come between. -/
theorem params_kept_without_owner (chain : WithDid State) (events : List (WithDid.Event Call))
    (owner : DidOrDidMethodKey) (unsigned : ∀ call, WithDid.Event.pallet call ∈ events → call.signer ≠ owner) :
    (Lib.run (WithDid.apply crypto backend (dispatch crypto encode)) chain events).did.signatureParams owner =
        chain.did.signatureParams owner ∧
      (Lib.run (WithDid.apply crypto backend (dispatch crypto encode)) chain events).pallet.paramsCounter owner =
        chain.pallet.paramsCounter owner := by
  -- the invariant: the owner's parameters and counter are those it started with
  refine @run_invariant _ _ (WithDid.apply crypto backend (dispatch crypto encode))
    (fun current => current.did.signatureParams owner = chain.did.signatureParams owner ∧
      current.pallet.paramsCounter owner = chain.pallet.paramsCounter owner) events ?_ chain ⟨rfl, rfl⟩
  intro current event mem kept
  obtain ⟨params, counter⟩ := @apply_other_owner crypto backend encode current event owner
    (fun call named => unsigned call (named ▸ mem))
  exact ⟨params.trans kept.1, counter.trans kept.2⟩

theorem params_kept_without_owner_otherSigner :
    (∀ call, WithDid.Event.pallet call ∈
        [WithDid.Event.pallet (Call.addParams ⟨.bbs, 1⟩ (.didSignature ⟨⟨0⟩, 1, .sr25519 0⟩))] →
        call.signer ≠ .did ⟨1⟩) ∧
      (Lib.run (WithDid.apply acceptAll .byEncoding (dispatch acceptAll fun _ => .masterVote [] 0 0))
          ⟨DidModule.genesis [(⟨0⟩, controlKey 0)], initial⟩
          [.pallet (.addParams ⟨.bbs, 1⟩ (.didSignature ⟨⟨0⟩, 1, .sr25519 0⟩))]).did.signatureParams (.did ⟨1⟩) =
        (DidModule.genesis [(⟨0⟩, controlKey 0)]).signatureParams (.did ⟨1⟩) ∧
      (Lib.run (WithDid.apply acceptAll .byEncoding (dispatch acceptAll fun _ => .masterVote [] 0 0))
          ⟨DidModule.genesis [(⟨0⟩, controlKey 0)], initial⟩
          [.pallet (.addParams ⟨.bbs, 1⟩ (.didSignature ⟨⟨0⟩, 1, .sr25519 0⟩))]).pallet.paramsCounter (.did ⟨1⟩) =
        initial.paramsCounter (.did ⟨1⟩) := by
  have unsigned : ∀ call, WithDid.Event.pallet call ∈
      [WithDid.Event.pallet (Call.addParams ⟨.bbs, 1⟩ (.didSignature ⟨⟨0⟩, 1, .sr25519 0⟩))] →
      call.signer ≠ .did ⟨1⟩ := by
    intro call mem
    simp only [List.mem_singleton, WithDid.Event.pallet.injEq] at mem
    subst mem
    decide
  exact ⟨unsigned, params_kept_without_owner _ _ _ unsigned⟩

end Invariant

end DockSubstrate.OffchainSignaturesModule
