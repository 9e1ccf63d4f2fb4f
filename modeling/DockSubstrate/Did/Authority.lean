import Mathlib
import DockSubstrate.Did.Counters
import DockSubstrate.Lib.Runs

/-!
# Only a DID's controllers change it

A call signed through `execute_removable_from_controller` runs only once
`authorizes_signed_action` has found the signer among the controllers of the target
(`authorizeController_controls`).  Its body writes the target's storage only, and the
signer's own entry of `Dids` gets a new nonce and keeps its details
(`executeRemovableFromController_keeps_other`).  The unsigned calls create DIDs that are
absent, change off-chain DIDs and DID method keys.

So an on-chain DID none of whose controllers signs a call of a run keeps, along the run,
its details (the nonce apart: the DID may sign for DIDs it controls), its keys, its
controllers, its off-chain public keys and its service endpoints
(`did_kept_without_controllers`).
-/

namespace DockSubstrate.DidModule

open DockSubstrate.Lib DockSubstrate.Util

/-- The signature a call carries; the unsigned calls carry none. -/
def Call.signature : Call → Option DidOrDidMethodKeySignature
  | .newOffchain .. => none
  | .setOffchainDidDocRef .. => none
  | .removeOffchainDid .. => none
  | .newOnchain .. => none
  | .addKeys _ sig => some sig
  | .removeKeys _ sig => some sig
  | .addControllers _ sig => some sig
  | .removeControllers _ sig => some sig
  | .addServiceEndpoint _ sig => some sig
  | .removeServiceEndpoint _ sig => some sig
  | .removeOnchainDid _ sig => some sig
  | .newDidMethodKey _ => none
  | .addPublicKey _ sig => some sig
  | .removePublicKey _ sig => some sig

/-- The call is not signed by any of `controllers`. -/
def Call.UnsignedBy (controllers : Controller → Bool) (call : Call) : Prop :=
  ∀ signature, call.signature = some signature → controllers ⟨signature.signer⟩ = false

/-- A call of a block: one that fails leaves the state as it was. -/
def State.apply (crypto : SignatureVerification StateChange) (backend : Backend) (state : State) (call : Call) :
    State :=
  (dispatch crypto backend call state).toOption.getD state

/-- What `did` keeps in `current` of `start`: on-chain details holding `data`, whatever their
nonce, and its keys, controllers, public keys and service endpoints. -/
def State.Keeps (start : State) (did : Did) (data : OnChainDidDetails) (current : State) : Prop :=
  (∃ nonce, current.dids did = some (.onChain ⟨nonce, data⟩)) ∧ start.SameEntries current did ∧
    current.didServiceEndpoints did = start.didServiceEndpoints did

/-- A body that writes no service endpoints but the target's. -/
def EndpointsFrame (target : Did) (f : OnDetails) : Prop :=
  ∀ details state data after, f details state = .ok (data, after) →
    ∀ did ≠ target, after.didServiceEndpoints did = state.didServiceEndpoints did

variable {crypto : SignatureVerification StateChange} {backend : Backend}

/-! ## What each call may write -/

theorem State.SameEntries.trans {state middle next : State} {did : Did} (first : state.SameEntries middle did)
    (second : middle.SameEntries next did) : state.SameEntries next did :=
  ⟨second.1.trans first.1, second.2.1.trans first.2.1, second.2.2.trans first.2.2⟩

/-- A state that keeps the entries and service endpoints of `did`, and its details with
another nonce, keeps what `did` kept. -/
theorem State.Keeps.of_step {start state next : State} {did : Did} {data : OnChainDidDetails}
    (kept : start.Keeps did data state) (entries : state.SameEntries next did)
    (endpoints : next.didServiceEndpoints did = state.didServiceEndpoints did)
    (stays : ∃ nonce, next.dids did = some (.onChain ⟨nonce, data⟩)) : start.Keeps did data next :=
  ⟨stays, kept.2.1.trans entries, endpoints.trans kept.2.2⟩

theorem endpointsFrame_onExisting {ε : Type} {lift : ε → DispatchError}
    {body : OnChainDidDetails → State → Except ε (OnChainDidDetails × State)} {target : Did}
    (keeps : ∀ {details state updated after}, body details state = .ok (updated, after) →
      ∀ did ≠ target, after.didServiceEndpoints did = state.didServiceEndpoints did) :
    EndpointsFrame target (onExisting lift body) := by
  intro details state data after ran
  cases details with
  | none => simp [onExisting] at ran
  | some details =>
      obtain ⟨updated, ranBody, rfl⟩ := onExisting_some_eq_ok.mp ran
      exact keeps ranBody

/-- A body that leaves every service endpoint. -/
theorem endpointsFrame_of_eq {ε : Type} {lift : ε → DispatchError}
    {body : OnChainDidDetails → State → Except ε (OnChainDidDetails × State)} {target : Did}
    (keeps : ∀ {details state updated after}, body details state = .ok (updated, after) →
      after.didServiceEndpoints = state.didServiceEndpoints) :
    EndpointsFrame target (onExisting lift body) :=
  endpointsFrame_onExisting fun ran did _ => congrFun (keeps ran) did

theorem addKeys_endpoints {action : AddKeys} {details updated : OnChainDidDetails} {state after : State}
    (ran : addKeys_ action details state = .ok (updated, after)) :
    after.didServiceEndpoints = state.didServiceEndpoints := by
  simp only [addKeys_, Except.bind_eq_ok, Except.pure_eq_ok, Prod.mk.injEq] at ran
  obtain ⟨keys, -, -, rfl⟩ := ran
  rfl

theorem removeKeys_endpoints {action : RemoveKeys} {details updated : OnChainDidDetails} {state after : State}
    (ran : removeKeys_ action details state = .ok (updated, after)) :
    after.didServiceEndpoints = state.didServiceEndpoints := by
  simp only [removeKeys_, Except.bind_eq_ok, Except.pure_eq_ok, Prod.mk.injEq] at ran
  obtain ⟨count, -, -, rfl⟩ := ran
  rfl

theorem addControllers_endpoints {action : AddControllers} {details updated : OnChainDidDetails}
    {state after : State} (ran : addControllers_ action details state = .ok (updated, after)) :
    after.didServiceEndpoints = state.didServiceEndpoints := by
  unfold addControllers_ at ran
  split_ifs at ran <;> simp at ran
  obtain ⟨-, rfl⟩ := ran
  rfl

theorem removeControllers_endpoints {action : RemoveControllers} {details updated : OnChainDidDetails}
    {state after : State} (ran : removeControllers_ action details state = .ok (updated, after)) :
    after.didServiceEndpoints = state.didServiceEndpoints := by
  unfold removeControllers_ at ran
  split_ifs at ran <;> simp at ran
  obtain ⟨-, rfl⟩ := ran
  rfl

theorem addServiceEndpoint_endpoints {action : AddServiceEndpoint} {details updated : OnChainDidDetails}
    {state after : State} (ran : addServiceEndpoint_ action details state = .ok (updated, after)) :
    ∀ did ≠ action.did, after.didServiceEndpoints did = state.didServiceEndpoints did := by
  unfold addServiceEndpoint_ at ran
  split_ifs at ran <;> simp at ran
  obtain ⟨-, rfl⟩ := ran
  exact fun did differs => update₂_of_ne differs ..

theorem removeServiceEndpoint_endpoints {action : RemoveServiceEndpoint} {details updated : OnChainDidDetails}
    {state after : State} (ran : removeServiceEndpoint_ action details state = .ok (updated, after)) :
    ∀ did ≠ action.did, after.didServiceEndpoints did = state.didServiceEndpoints did := by
  unfold removeServiceEndpoint_ at ran
  split_ifs at ran <;> simp at ran
  obtain ⟨-, rfl⟩ := ran
  exact fun did differs => update₂_of_ne differs ..

theorem addPublicKey_endpoints {action : AddOffchainSignaturePublicKey} {details updated : OnChainDidDetails}
    {state after : State} (ran : addPublicKey_ action details state = .ok (updated, after)) :
    after.didServiceEndpoints = state.didServiceEndpoints := by
  simp only [addPublicKey_, Except.bind_eq_ok, Except.pure_eq_ok, Prod.mk.injEq] at ran
  obtain ⟨-, -, -, rfl⟩ := ran
  rfl

theorem removePublicKey_endpoints {action : RemoveOffchainSignaturePublicKey} {details updated : OnChainDidDetails}
    {state after : State} (ran : removePublicKey_ action details state = .ok (updated, after)) :
    after.didServiceEndpoints = state.didServiceEndpoints := by
  unfold removePublicKey_ at ran
  split_ifs at ran <;> simp at ran
  obtain ⟨-, rfl⟩ := ran
  rfl

/-- `remove_onchain_did_` clears the service endpoints of the DID it removes only. -/
theorem removeOnchainDid_endpoints (backend : Backend) (action : DidRemoval) :
    EndpointsFrame action.did fun details state => (removeOnchainDid_ backend action details state).mapError .did := by
  intro details state data after ran
  cases details with
  | none => simp [removeOnchainDid_] at ran
  | some details =>
      simp only [removeOnchainDid_, Except.mapError_eq_ok, Except.pure_eq_ok, Prod.mk.injEq] at ran
      obtain ⟨rfl, rfl⟩ := ran
      exact fun did differs => Function.update_of_ne differs ..

/-! ## Signed calls -/

/-- An authorized signature is its signer's, and the signer controls the target. -/
theorem authorizeController_controls {state : State} {signature : DidOrDidMethodKeySignature} {target : Did}
    {message : StateChange} {controller : Controller}
    (authorized : authorizeController crypto state signature target message = .ok controller) :
    controller = ⟨signature.signer⟩ ∧ state.isController target controller = true := by
  cases signature with
  | didSignature sig =>
      obtain ⟨rfl, key, -, -, controls, -⟩ := authorizeController_didSignature_eq_ok.mp authorized
      exact ⟨rfl, controls⟩
  | didMethodKeySignature sig =>
      obtain ⟨rfl, controls, -⟩ := authorizeController_didMethodKeySignature_eq_ok.mp authorized
      exact ⟨rfl, controls⟩

section Signed

variable {len : Nat} {target : Did} {nonce : Nat} {message : StateChange} {f : OnDetails}
  {signature : DidOrDidMethodKeySignature} {state next : State}

/-- A call signed by a controller of `target` leaves another on-chain DID its entries and
service endpoints, and its details with their nonce or, where it signed, a new one. -/
theorem executeRemovableFromController_keeps_other (frame : BodyFrame target f) (endpoints : EndpointsFrame target f)
    (ran : executeRemovableFromController crypto len target nonce message f signature state = .ok next)
    {did : Did} (differs : did ≠ target) {details : WithNonce OnChainDidDetails}
    (stored : state.dids did = some (.onChain details)) :
    state.SameEntries next did ∧ next.didServiceEndpoints did = state.didServiceEndpoints did ∧
      ∃ renewed, next.dids did = some (.onChain ⟨renewed, details.data⟩) := by
  obtain ⟨⟨signer⟩, authorized⟩ := authorized_of_executeRemovableFromController ran
  cases signer with
  | did controller =>
      by_cases self : controller = target
      · subst self
        obtain ⟨-, targetDetails, targetStored, -, -, data, after, body, rfl⟩ :=
          (executeRemovableFromController_self authorized).mp ran
        obtain ⟨⟨dids, others⟩, -⟩ := frame _ _ _ _ body
        refine ⟨others did differs, endpoints _ _ _ _ body did differs, details.nonce, ?_⟩
        dsimp only
        rw [Function.update_of_ne differs, dids, stored]
      · obtain ⟨-, signerDetails, signerStored, -, -, targetDetails, targetStored, data, after, body, rfl⟩ :=
          (executeRemovableFromController_other authorized self).mp ran
        obtain ⟨⟨dids, others⟩, -⟩ := frame _ _ _ _ body
        refine ⟨others did differs, endpoints _ _ _ _ body did differs, ?_⟩
        dsimp only
        by_cases signed : did = controller
        -- the signer's own entry: its details, with the action's nonce
        · subst signed
          simp only [stored, Option.some.injEq, StoredDidDetails.onChain.injEq] at signerStored
          subst signerStored
          exact ⟨nonce, Function.update_self ..⟩
        · exact ⟨details.nonce, by rw [Function.update_of_ne signed, Function.update_of_ne differs, dids, stored]⟩
  | didMethodKey key =>
      obtain ⟨-, keyStored, -, -, -, targetDetails, targetStored, data, after, body, rfl⟩ :=
        (executeRemovableFromController_key authorized).mp ran
      obtain ⟨⟨dids, others⟩, -⟩ := frame _ _ _ _ body
      refine ⟨others did differs, endpoints _ _ _ _ body did differs, details.nonce, ?_⟩
      dsimp only
      rw [Function.update_of_ne differs, dids, stored]

/-- A call signed by no controller of `did` keeps what `did` kept: the signer controls the
target, which is therefore another DID. -/
theorem executeRemovableFromController_keeps (frame : BodyFrame target f) (endpoints : EndpointsFrame target f)
    (ran : executeRemovableFromController crypto len target nonce message f signature state = .ok next)
    {start : State} {did : Did} {data : OnChainDidDetails} (kept : start.Keeps did data state)
    (unsigned : start.didControllers did ⟨signature.signer⟩ = false) : start.Keeps did data next := by
  obtain ⟨signer, authorized⟩ := authorized_of_executeRemovableFromController ran
  obtain ⟨rfl, controls⟩ := authorizeController_controls authorized
  have differs : did ≠ target := by
    rintro rfl
    rw [State.isController, kept.2.1.2.1, unsigned] at controls
    cases controls
  obtain ⟨renewed, stored⟩ := kept.1
  obtain ⟨entries, endpointsKept, stays⟩ := executeRemovableFromController_keeps_other frame endpoints ran differs stored
  exact kept.of_step entries endpointsKept stays

end Signed

/-! ## Unsigned calls -/

/-- A call that writes only another DID's entry of `Dids` keeps what `did` kept. -/
theorem State.Keeps.update_other {start state : State} {did other : Did} {data : OnChainDidDetails}
    (kept : start.Keeps did data state) (differs : other ≠ did) (entry : Option StoredDidDetails) :
    start.Keeps did data { state with dids := Function.update state.dids other entry } := by
  obtain ⟨renewed, stored⟩ := kept.1
  exact kept.of_step ⟨rfl, rfl, rfl⟩ rfl ⟨renewed, (Function.update_of_ne (Ne.symm differs) ..).trans stored⟩

/-- An off-chain DID is another DID than an on-chain one. -/
theorem State.Keeps.ne_of_offchain {start state : State} {did other : Did} {data : OnChainDidDetails}
    {details : OffChainDidDetails} (kept : start.Keeps did data state)
    (found : state.offchainDidDetails other = .ok details) : other ≠ did := by
  rintro rfl
  obtain ⟨renewed, stored⟩ := kept.1
  simp [State.offchainDidDetails, stored] at found

theorem State.Keeps.ne_of_absent {start state : State} {did other : Did} {data : OnChainDidDetails}
    (kept : start.Keeps did data state) (absent : (state.dids other).isSome = false) : other ≠ did := by
  rintro rfl
  obtain ⟨renewed, stored⟩ := kept.1
  simp [stored] at absent

/-- A successful call that no controller of `did` signs keeps what `did` kept. -/
theorem dispatch_keeps_of_unsignedBy {call : Call} {state next : State}
    (done : dispatch crypto backend call state = .ok next) {start : State} {did : Did} {data : OnChainDidDetails}
    (kept : start.Keeps did data state) (unsigned : call.UnsignedBy (start.didControllers did)) :
    start.Keeps did data next := by
  cases call with
  | newOffchain caller other docRef =>
      obtain ⟨absent, rfl⟩ := newOffchain_eq_ok.mp (Except.mapError_eq_ok.mp done)
      exact kept.update_other (kept.ne_of_absent (by simp [absent])) _
  | setOffchainDidDocRef caller other docRef =>
      obtain ⟨details, found, -, rfl⟩ := setOffchainDidDocRef_eq_ok.mp (Except.mapError_eq_ok.mp done)
      exact kept.update_other (kept.ne_of_offchain found) _
  | removeOffchainDid caller other =>
      obtain ⟨details, found, -, rfl⟩ := removeOffchainDid_eq_ok.mp (Except.mapError_eq_ok.mp done)
      exact kept.update_other (kept.ne_of_offchain found) _
  | newOnchain other keys controllers =>
      obtain ⟨checked, chosen, absent, -, rfl⟩ := newOnchain_eq_ok (Except.mapError_eq_ok.mp done)
      have differs := kept.ne_of_absent absent
      obtain ⟨renewed, stored⟩ := kept.1
      refine kept.of_step ⟨insertKeys_of_ne (Ne.symm differs) .., withControllers_of_ne (Ne.symm differs) .., rfl⟩
        rfl ⟨renewed, ?_⟩
      exact (Function.update_of_ne (Ne.symm differs) ..).trans stored
  | addKeys action sig =>
      exact executeRemovableFromController_keeps (bodyFrame_onExisting addKeys_touches)
        (endpointsFrame_of_eq addKeys_endpoints) done kept (unsigned sig rfl)
  | removeKeys action sig =>
      exact executeRemovableFromController_keeps (bodyFrame_onExisting removeKeys_touches)
        (endpointsFrame_of_eq removeKeys_endpoints) done kept (unsigned sig rfl)
  | addControllers action sig =>
      exact executeRemovableFromController_keeps (bodyFrame_onExisting addControllers_touches)
        (endpointsFrame_of_eq addControllers_endpoints) done kept (unsigned sig rfl)
  | removeControllers action sig =>
      exact executeRemovableFromController_keeps (bodyFrame_onExisting removeControllers_touches)
        (endpointsFrame_of_eq removeControllers_endpoints) done kept (unsigned sig rfl)
  | addServiceEndpoint action sig =>
      exact executeRemovableFromController_keeps (bodyFrame_onExisting addServiceEndpoint_touches)
        (endpointsFrame_onExisting addServiceEndpoint_endpoints) done kept (unsigned sig rfl)
  | removeServiceEndpoint action sig =>
      exact executeRemovableFromController_keeps (bodyFrame_onExisting removeServiceEndpoint_touches)
        (endpointsFrame_onExisting removeServiceEndpoint_endpoints) done kept (unsigned sig rfl)
  | removeOnchainDid action sig =>
      exact executeRemovableFromController_keeps (removeOnchainDid_frame backend action)
        (removeOnchainDid_endpoints backend action)
        done kept (unsigned sig rfl)
  | newDidMethodKey didKey =>
      obtain ⟨-, rfl⟩ := newDidMethodKey_eq_ok.mp (Except.mapError_eq_ok.mp done)
      exact kept.of_step ⟨rfl, rfl, rfl⟩ rfl kept.1
  | addPublicKey action sig =>
      exact executeRemovableFromController_keeps (bodyFrame_onExisting addPublicKey_touches)
        (endpointsFrame_of_eq addPublicKey_endpoints) done kept (unsigned sig rfl)
  | removePublicKey action sig =>
      exact executeRemovableFromController_keeps (bodyFrame_onExisting removePublicKey_touches)
        (endpointsFrame_of_eq removePublicKey_endpoints) done kept (unsigned sig rfl)

/-- Along any run from any state, an on-chain DID none of whose controllers signs a call of
the run keeps its details, whatever their nonce, its keys, its controllers, its off-chain
public keys and its service endpoints. -/
theorem did_kept_without_controllers (state : State) (calls : List Call) {did : Did}
    {details : WithNonce OnChainDidDetails} (stored : state.dids did = some (.onChain details))
    (unsigned : ∀ call ∈ calls, call.UnsignedBy (state.didControllers did)) :
    state.Keeps did details.data (Lib.run (State.apply crypto backend) state calls) := by
  -- the invariant: what the DID keeps of the run's first state
  refine @Lib.run_invariant _ _ (State.apply crypto backend) (state.Keeps did details.data) calls ?_ state
    ⟨⟨details.nonce, stored⟩, ⟨rfl, rfl, rfl⟩, rfl⟩
  intro current call mem kept
  unfold State.apply
  cases ran : dispatch crypto backend call current with
  | error => exact kept
  | ok next => exact dispatch_keeps_of_unsignedBy ran kept (unsigned call mem)

theorem did_kept_without_controllers_otherDid :
    (genesis [(⟨0⟩, controlKey 0), (⟨1⟩, controlKey 1)]).dids ⟨0⟩ = some (.onChain ⟨0, ⟨1, 1, 1⟩⟩) ∧
      (∀ call ∈ [Call.removeOnchainDid ⟨⟨1⟩, 1⟩ (.didSignature ⟨⟨1⟩, 1, .sr25519 1⟩)],
        call.UnsignedBy ((genesis [(⟨0⟩, controlKey 0), (⟨1⟩, controlKey 1)]).didControllers ⟨0⟩)) ∧
      (genesis [(⟨0⟩, controlKey 0), (⟨1⟩, controlKey 1)]).Keeps ⟨0⟩ ⟨1, 1, 1⟩
        (Lib.run (State.apply acceptAll .byEncoding) (genesis [(⟨0⟩, controlKey 0), (⟨1⟩, controlKey 1)])
          [Call.removeOnchainDid ⟨⟨1⟩, 1⟩ (.didSignature ⟨⟨1⟩, 1, .sr25519 1⟩)]) := by
  have stored : (genesis [(⟨0⟩, controlKey 0), (⟨1⟩, controlKey 1)]).dids ⟨0⟩ = some (.onChain ⟨0, ⟨1, 1, 1⟩⟩) :=
    rfl
  have unsigned : ∀ call ∈ [Call.removeOnchainDid ⟨⟨1⟩, 1⟩ (.didSignature ⟨⟨1⟩, 1, .sr25519 1⟩)],
      call.UnsignedBy ((genesis [(⟨0⟩, controlKey 0), (⟨1⟩, controlKey 1)]).didControllers ⟨0⟩) := by
    simp only [List.mem_singleton, forall_eq, Call.UnsignedBy, Call.signature, Option.some.injEq, forall_eq']
    rfl
  exact ⟨stored, unsigned, did_kept_without_controllers _ _ stored unsigned⟩

end DockSubstrate.DidModule
