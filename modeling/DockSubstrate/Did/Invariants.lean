import DockSubstrate.Did.Execution

/-!
# Keys and public keys belong to on-chain DIDs

`DidKeys` and the `PublicKeys` of the off-chain signatures pallet are written only under
on-chain DIDs, and `remove_onchain_did_` clears them with the DID, each with one
`clear_prefix` that deletes at most `u32::MAX` entries.  `EntriesOnChain` says that a DID with
a key or a public key is on-chain.  It holds at genesis and after every successful call from
a state whose DIDs have no more keys, and no more public keys, than one `clear_prefix`
deletes (`RowsFit`).  A signed call is checked through `BodyFrame`, what its body may touch:
`Dids` not at all, of the other entries only the target's, and where it removes the target
whose rows fit, none of the target's keys may be left.  `DidControllers` is not among these
rows: nothing bounds the controllers of a DID, and those a removal leaves stay.
-/

namespace DockSubstrate.DidModule

open DockSubstrate.Lib DockSubstrate.Util

namespace State

/-- The DID is on-chain. -/
def IsOnChain (state : State) (did : Did) : Prop :=
  ∃ details, state.dids did = some (.onChain details)

/-- The DID has a key or a public key. -/
def HasEntries (state : State) (did : Did) : Prop :=
  (∃ keyId key, state.didKeys did keyId = some key) ∨ ∃ keyId key, state.publicKeys did keyId = some key

/-- The DID has no more keys, and no more public keys, than one `clear_prefix` deletes. -/
def RowsFit (state : State) (did : Did) : Prop :=
  (held none (state.didKeys did)).encard ≤ u32Max ∧ (held none (state.publicKeys did)).encard ≤ u32Max

/-- The DID's keys, controllers and public keys are the same in `next`. -/
def SameEntries (state next : State) (did : Did) : Prop :=
  next.didKeys did = state.didKeys did ∧ next.didControllers did = state.didControllers did ∧
    next.publicKeys did = state.publicKeys did

theorem HasEntries.of_same {state next : State} {did : Did} (has : next.HasEntries did)
    (same : SameEntries state next did) : state.HasEntries did := by
  obtain ⟨keys, controllers, publicKeys⟩ := same
  simpa only [HasEntries, keys, controllers, publicKeys] using has

end State

open State

/-- Every DID with a key or a public key is on-chain. -/
def EntriesOnChain (state : State) : Prop :=
  ∀ did, state.HasEntries did → state.IsOnChain did

theorem entriesOnChain_empty : EntriesOnChain State.empty := by
  rintro did (⟨_, _, found⟩ | ⟨_, _, found⟩) <;> simp [State.empty] at found

/-- The invariant holds of a state whose DIDs with entries either had those entries and
their entry of `Dids` before, or are on-chain. -/
theorem EntriesOnChain.of_forall {state next : State} (inv : EntriesOnChain state)
    (each : ∀ did, next.HasEntries did → (state.HasEntries did ∧ next.dids did = state.dids did) ∨ next.IsOnChain did) :
    EntriesOnChain next := by
  intro did has
  rcases each did has with ⟨old, same⟩ | onChain
  · obtain ⟨details, stored⟩ := inv did old
    exact ⟨details, same.trans stored⟩
  · exact onChain

/-- Another entry of `Dids` for a DID that is not on-chain keeps the invariant: the DID has no
entries. -/
theorem EntriesOnChain.update_of_not_onChain {state : State} {did : Did} (inv : EntriesOnChain state)
    (notOnChain : ¬ state.IsOnChain did) (entry : Option StoredDidDetails) :
    EntriesOnChain { state with dids := Function.update state.dids did entry } := by
  apply inv.of_forall
  intro other has
  by_cases same : other = did
  · subst same
    exact absurd (inv other has) notOnChain
  · exact .inl ⟨has, Function.update_of_ne same ..⟩

/-! ## Call bodies -/

/-- What a body of `execute_from_controller` may touch: not `Dids`, and of the other
entries only those of `target`. -/
def Touches (target : Did) (state after : State) : Prop :=
  after.dids = state.dids ∧ ∀ did ≠ target, state.SameEntries after did

/-- What a body run on the details of `target` may do: touch what `Touches` allows, and
where it removes the details of a target whose rows fit, leave it no keys. -/
def BodyFrame (target : Did) (f : OnDetails) : Prop :=
  ∀ details state data after, f details state = .ok (data, after) →
    Touches target state after ∧ (data = none → state.RowsFit target → ¬ after.HasEntries target)

/-- A body run by `execute_from_controller` never removes the details. -/
theorem bodyFrame_onExisting {ε : Type} {lift : ε → DispatchError}
    {body : OnChainDidDetails → State → Except ε (OnChainDidDetails × State)} {target : Did}
    (touches : ∀ {details state updated after}, body details state = .ok (updated, after) → Touches target state after) :
    BodyFrame target (onExisting lift body) := by
  intro details state data after ran
  cases details with
  | none => simp [onExisting] at ran
  | some details =>
      obtain ⟨updated, ranBody, rfl⟩ := onExisting_some_eq_ok.mp ran
      exact ⟨touches ranBody, fun absent => absurd absent (Option.some_ne_none _)⟩

theorem addKeys_touches {action : AddKeys} {details updated : OnChainDidDetails} {state after : State}
    (ran : addKeys_ action details state = .ok (updated, after)) : Touches action.did state after := by
  simp only [addKeys_, Except.bind_eq_ok, Except.pure_eq_ok, Prod.mk.injEq] at ran
  obtain ⟨keys, -, -, rfl⟩ := ran
  refine ⟨rfl, fun did differs => ⟨insertKeys_of_ne differs .., ?_, rfl⟩⟩
  split <;> simp [update₂_of_ne differs]

theorem removeKeys_touches {action : RemoveKeys} {details updated : OnChainDidDetails} {state after : State}
    (ran : removeKeys_ action details state = .ok (updated, after)) : Touches action.did state after := by
  simp only [removeKeys_, Except.bind_eq_ok, Except.pure_eq_ok, Prod.mk.injEq] at ran
  obtain ⟨count, -, -, rfl⟩ := ran
  refine ⟨rfl, fun did differs => ⟨by simp [differs], ?_, rfl⟩⟩
  split <;> simp [update₂_of_ne differs]

theorem addControllers_touches {action : AddControllers} {details updated : OnChainDidDetails} {state after : State}
    (ran : addControllers_ action details state = .ok (updated, after)) : Touches action.did state after := by
  unfold addControllers_ at ran
  split_ifs at ran <;> simp at ran
  obtain ⟨-, rfl⟩ := ran
  exact ⟨rfl, fun did differs => ⟨rfl, withControllers_of_ne differs .., rfl⟩⟩

theorem removeControllers_touches {action : RemoveControllers} {details updated : OnChainDidDetails}
    {state after : State} (ran : removeControllers_ action details state = .ok (updated, after)) :
    Touches action.did state after := by
  unfold removeControllers_ at ran
  split_ifs at ran <;> simp at ran
  obtain ⟨-, rfl⟩ := ran
  exact ⟨rfl, fun did differs => ⟨rfl, withControllers_of_ne differs .., rfl⟩⟩

theorem addServiceEndpoint_touches {action : AddServiceEndpoint} {details updated : OnChainDidDetails}
    {state after : State} (ran : addServiceEndpoint_ action details state = .ok (updated, after)) :
    Touches action.did state after := by
  unfold addServiceEndpoint_ at ran
  split_ifs at ran <;> simp at ran
  obtain ⟨-, rfl⟩ := ran
  exact ⟨rfl, fun _ _ => ⟨rfl, rfl, rfl⟩⟩

theorem removeServiceEndpoint_touches {action : RemoveServiceEndpoint} {details updated : OnChainDidDetails}
    {state after : State} (ran : removeServiceEndpoint_ action details state = .ok (updated, after)) :
    Touches action.did state after := by
  unfold removeServiceEndpoint_ at ran
  split_ifs at ran <;> simp at ran
  obtain ⟨-, rfl⟩ := ran
  exact ⟨rfl, fun _ _ => ⟨rfl, rfl, rfl⟩⟩

theorem addPublicKey_touches {action : AddOffchainSignaturePublicKey} {details updated : OnChainDidDetails}
    {state after : State} (ran : addPublicKey_ action details state = .ok (updated, after)) :
    Touches action.did state after := by
  simp only [addPublicKey_, Except.bind_eq_ok, Except.pure_eq_ok, Prod.mk.injEq] at ran
  obtain ⟨-, -, -, rfl⟩ := ran
  exact ⟨rfl, fun did differs => ⟨rfl, rfl, update₂_of_ne differs ..⟩⟩

/-- A public key is removed by its owner only, the target. -/
theorem removePublicKey_touches {action : RemoveOffchainSignaturePublicKey} {details updated : OnChainDidDetails}
    {state after : State} (ran : removePublicKey_ action details state = .ok (updated, after)) :
    Touches action.did state after := by
  unfold removePublicKey_ at ran
  by_cases owner : action.keyRef.1 = action.did
  · split_ifs at ran <;> simp at ran
    obtain ⟨-, rfl⟩ := ran
    exact ⟨rfl, fun did differs => ⟨rfl, rfl, update₂_of_ne (owner ▸ differs) ..⟩⟩
  · split_ifs at ran <;> simp at ran

/-- `remove_onchain_did_` removes the details and clears the target's rows; those that fit
are cleared entirely. -/
theorem removeOnchainDid_frame (backend : Backend) (action : DidRemoval) :
    BodyFrame action.did fun details state => (removeOnchainDid_ backend action details state).mapError .did := by
  intro details state data after ran
  cases details with
  | none => simp [removeOnchainDid_] at ran
  | some details =>
      simp only [removeOnchainDid_, Except.mapError_eq_ok, Except.pure_eq_ok, Prod.mk.injEq] at ran
      obtain ⟨rfl, rfl⟩ := ran
      refine ⟨⟨rfl, fun did differs => ⟨?_, ?_, ?_⟩⟩, fun _ fit => ?_⟩
      · exact Function.update_of_ne differs ..
      · exact Function.update_of_ne differs ..
      · exact Function.update_of_ne differs ..
      -- rows of no more than `u32::MAX` entries are cleared entirely
      · rintro (⟨keyId, _, found⟩ | ⟨keyId, _, found⟩)
        · simp [backend.didKeys.left_of_encard_le _ _ fit.1 keyId] at found
        · simp [backend.publicKeys.left_of_encard_le _ _ fit.2 keyId] at found

/-! ## Calls -/

variable {crypto : SignatureVerification StateChange} {backend : Backend}

/-- After a body ran on the details of `target`, writing them back keeps the invariant
when every other entry of `Dids` stays or is on-chain. -/
theorem EntriesOnChain.written {target : Did} {f : OnDetails} {details data : Option OnChainDidDetails}
    {state after next : State} (inv : EntriesOnChain state) (frame : BodyFrame target f)
    (fit : state.RowsFit target)
    (ran : f details state = .ok (data, after)) (entries : ∀ did, after.SameEntries next did)
    (atTarget : ∀ updated, data = some updated → next.IsOnChain target)
    (elsewhere : ∀ did ≠ target, next.dids did = after.dids did ∨ next.IsOnChain did) : EntriesOnChain next := by
  obtain ⟨⟨dids, others⟩, removed⟩ := frame _ _ _ _ ran
  apply inv.of_forall
  intro did has
  by_cases atIt : did = target
  · subst atIt
    cases data with
    | none => exact absurd (has.of_same (entries did)) (removed rfl fit)
    | some data => exact .inr (atTarget data rfl)
  · have old : state.HasEntries did := (has.of_same (entries did)).of_same (others did atIt)
    rcases elsewhere did atIt with same | onChain
    · exact .inl ⟨old, same.trans (congrFun dids did)⟩
    · exact .inr onChain

/-- A call signed by a controller keeps the invariant, whoever signed it: the controller's
entry is written on-chain, and the target's as the body left it. -/
theorem executeRemovableFromController_entriesOnChain {len : Nat} {target : Did} {nonce : Nat}
    {message : StateChange} {f : OnDetails} {signature : DidOrDidMethodKeySignature} {state next : State}
    (inv : EntriesOnChain state) (frame : BodyFrame target f) (fit : state.RowsFit target)
    (ran : executeRemovableFromController crypto len target nonce message f signature state = .ok next) :
    EntriesOnChain next := by
  obtain ⟨⟨signer⟩, authorized⟩ := authorized_of_executeRemovableFromController ran
  cases signer with
  | did controller =>
      by_cases self : controller = target
      · subst self
        obtain ⟨-, details, -, -, -, data, after, body, rfl⟩ := (executeRemovableFromController_self authorized).mp ran
        refine inv.written frame fit body (fun _ => ⟨rfl, rfl, rfl⟩) ?_ fun did differs => .inl (Function.update_of_ne differs ..)
        rintro updated rfl
        exact ⟨_, Function.update_self ..⟩
      · obtain ⟨-, details, -, -, -, targetDetails, -, data, after, body, rfl⟩ :=
          (executeRemovableFromController_other authorized self).mp ran
        refine inv.written frame fit body (fun _ => ⟨rfl, rfl, rfl⟩) ?_ ?_
        · rintro updated rfl
          exact ⟨_, (Function.update_of_ne (Ne.symm self) ..).trans (Function.update_self ..)⟩
        · intro did differs
          by_cases isController : did = controller
          · subst isController
            exact .inr ⟨_, Function.update_self ..⟩
          · exact .inl ((Function.update_of_ne isController ..).trans (Function.update_of_ne differs ..))
  | didMethodKey key =>
      obtain ⟨-, stored, -, -, -, targetDetails, -, data, after, body, rfl⟩ :=
        (executeRemovableFromController_key authorized).mp ran
      refine inv.written frame fit body (fun _ => ⟨rfl, rfl, rfl⟩) ?_ fun did differs => .inl (Function.update_of_ne differs ..)
      rintro updated rfl
      exact ⟨_, Function.update_self ..⟩

theorem not_onChain_of_offchainDidDetails {state : State} {did : Did} {details : OffChainDidDetails}
    (found : state.offchainDidDetails did = .ok details) : ¬ state.IsOnChain did := by
  rintro ⟨onChain, stored⟩
  simp [State.offchainDidDetails, stored] at found

theorem newOffchain_entriesOnChain {caller : Nat} {did : Did} {docRef : OffChainDidDocRef} {state next : State}
    (inv : EntriesOnChain state) (ran : newOffchain_ caller did docRef state = .ok next) : EntriesOnChain next := by
  obtain ⟨absent, rfl⟩ := newOffchain_eq_ok.mp ran
  refine inv.update_of_not_onChain ?_ _
  rintro ⟨_, stored⟩
  simp [stored] at absent

theorem setOffchainDidDocRef_entriesOnChain {caller : Nat} {did : Did} {docRef : OffChainDidDocRef}
    {state next : State} (inv : EntriesOnChain state) (ran : setOffchainDidDocRef_ caller did docRef state = .ok next) :
    EntriesOnChain next := by
  obtain ⟨details, found, -, rfl⟩ := setOffchainDidDocRef_eq_ok.mp ran
  exact inv.update_of_not_onChain (not_onChain_of_offchainDidDetails found) _

theorem removeOffchainDid_entriesOnChain {caller : Nat} {did : Did} {state next : State}
    (inv : EntriesOnChain state) (ran : removeOffchainDid_ caller did state = .ok next) : EntriesOnChain next := by
  obtain ⟨details, found, -, rfl⟩ := removeOffchainDid_eq_ok.mp ran
  exact inv.update_of_not_onChain (not_onChain_of_offchainDidDetails found) _

/-- A new on-chain DID gets its keys and controllers, and nothing else changes. -/
theorem newOnchain_entriesOnChain {did : Did} {keys : List UncheckedDidKey} {controllers : Finset Controller}
    {state next : State} (inv : EntriesOnChain state) (ran : newOnchain_ did keys controllers state = .ok next) :
    EntriesOnChain next := by
  obtain ⟨checked, chosen, -, -, rfl⟩ := newOnchain_eq_ok ran
  apply inv.of_forall
  intro other has
  by_cases same : other = did
  · subst same
    exact .inr ⟨_, Function.update_self ..⟩
  · exact .inl ⟨has.of_same ⟨insertKeys_of_ne same .., withControllers_of_ne same .., rfl⟩,
      Function.update_of_ne same ..⟩

theorem newDidMethodKey_entriesOnChain {didKey : DidMethodKey} {state next : State} (inv : EntriesOnChain state)
    (ran : newDidMethodKey_ didKey state = .ok next) : EntriesOnChain next := by
  obtain ⟨-, rfl⟩ := newDidMethodKey_eq_ok.mp ran
  exact inv

/-- Every successful call from a state whose rows fit keeps the invariant. -/
theorem dispatch_entriesOnChain {call : Call} {state next : State} (inv : EntriesOnChain state)
    (fit : ∀ did, state.RowsFit did) (done : dispatch crypto backend call state = .ok next) : EntriesOnChain next := by
  cases call with
  | newOffchain caller did docRef => exact newOffchain_entriesOnChain inv (Except.mapError_eq_ok.mp done)
  | setOffchainDidDocRef caller did docRef =>
      exact setOffchainDidDocRef_entriesOnChain inv (Except.mapError_eq_ok.mp done)
  | removeOffchainDid caller did => exact removeOffchainDid_entriesOnChain inv (Except.mapError_eq_ok.mp done)
  | newOnchain did keys controllers => exact newOnchain_entriesOnChain inv (Except.mapError_eq_ok.mp done)
  | addKeys action sig =>
      exact executeRemovableFromController_entriesOnChain inv (bodyFrame_onExisting addKeys_touches) (fit _) done
  | removeKeys action sig =>
      exact executeRemovableFromController_entriesOnChain inv (bodyFrame_onExisting removeKeys_touches) (fit _) done
  | addControllers action sig =>
      exact executeRemovableFromController_entriesOnChain inv (bodyFrame_onExisting addControllers_touches)
        (fit _) done
  | removeControllers action sig =>
      exact executeRemovableFromController_entriesOnChain inv (bodyFrame_onExisting removeControllers_touches)
        (fit _) done
  | addServiceEndpoint action sig =>
      exact executeRemovableFromController_entriesOnChain inv (bodyFrame_onExisting addServiceEndpoint_touches)
        (fit _) done
  | removeServiceEndpoint action sig =>
      exact executeRemovableFromController_entriesOnChain inv
        (bodyFrame_onExisting removeServiceEndpoint_touches) (fit _) done
  | removeOnchainDid action sig =>
      exact executeRemovableFromController_entriesOnChain inv (removeOnchainDid_frame backend action) (fit _) done
  | newDidMethodKey didKey => exact newDidMethodKey_entriesOnChain inv (Except.mapError_eq_ok.mp done)
  | addPublicKey action sig =>
      exact executeRemovableFromController_entriesOnChain inv (bodyFrame_onExisting addPublicKey_touches) (fit _) done
  | removePublicKey action sig =>
      exact executeRemovableFromController_entriesOnChain inv (bodyFrame_onExisting removePublicKey_touches)
        (fit _) done

/-- Each DID of the genesis configuration is on-chain with its key and itself as controller. -/
theorem entriesOnChain_genesis (config : List (Did × DidKey)) : EntriesOnChain (genesis config) := by
  unfold genesis
  have start := entriesOnChain_empty
  generalize State.empty = init at start ⊢
  induction config generalizing init with
  | nil => exact start
  | cons entry rest ih =>
      obtain ⟨did, key⟩ := entry
      apply ih
      apply start.of_forall
      intro other has
      by_cases same : other = did
      · subst same
        exact .inr ⟨_, Function.update_self ..⟩
      · exact .inl ⟨has.of_same ⟨update₂_of_ne same .., update₂_of_ne same .., rfl⟩, Function.update_of_ne same ..⟩

end DockSubstrate.DidModule
