import DockSubstrate.TrustRegistry.Impl

/-!
# The trust registry pallet

The calls of `modules/trust_registry/mod.rs`, each as its action wrapper runs it once
the signatures are verified: `dispatch` performs the wrapper's checks that read the
registry's storage (an action must not be empty, its target must exist, a convener
must control the registry) and then the call's body, and writes what the body
returns.  The DID side of a signed call, the signature and the signer's nonce, is
outside this state; a call carries the signer (or the set of verified signers) the
signature check established.

`Step` relates two states by one successful call of any signer, and `Reachable` holds
of the states some run of successful calls leads to from the empty storage.
-/

namespace DockSubstrate.TrustRegistry

open DockSubstrate.Lib DockSubstrate.Util KeyValue

variable {limits : Limits}

/-- Why a call fails: an error of the pallet, or of the action wrapper. -/
inductive CallError where
  | module (error : Error)
  | action (error : ActionExecutionError)
  deriving DecidableEq, Repr

/-- A call of the pallet with its verified signer, or set of signers. -/
inductive Call (limits : Limits) where
  | initOrUpdateTrustRegistry (action : InitOrUpdateTrustRegistry) (signer : Convener)
  | setSchemasMetadata (action : SetSchemasMetadata limits) (signer : ConvenerOrIssuerOrVerifier)
  | updateDelegatedIssuers (action : UpdateDelegatedIssuers limits) (signer : Issuer)
  | suspendIssuers (action : SuspendIssuers) (signer : Convener)
  | unsuspendIssuers (action : UnsuspendIssuers) (signer : Convener)
  | changeParticipants (action : ChangeParticipantsRaw) (signers : List ConvenerOrIssuerOrVerifier)
  | setParticipantInformation (action : SetParticipantInformationRaw)
      (signers : List ConvenerOrIssuerOrVerifier)

/-- A pallet error as a failed call. -/
def liftModule {α : Type} (result : Except Error α) : Except (Failure CallError) α :=
  result.mapError fun error => .error (.module error)

/-- A failure of a call's body as a failed call. -/
def liftBody {α : Type} (result : Except (Failure Error) α) : Except (Failure CallError) α :=
  result.mapError (Failure.mapError .module)

@[simp]
theorem liftModule_eq_ok {α : Type} {result : Except Error α} {a : α} :
    liftModule result = .ok a ↔ result = .ok a :=
  Except.mapError_eq_ok

@[simp]
theorem liftBody_eq_ok {α : Type} {result : Except (Failure Error) α} {a : α} :
    liftBody result = .ok a ↔ result = .ok a :=
  Except.mapError_eq_ok

/-- The registry's information, which a `view` or `modify` of the registry requires. -/
def registryInfo (state : State limits) (registryId : TrustRegistryId) :
    Except (Failure CallError) (TrustRegistryInfo limits) :=
  match state.trustRegistriesInfo registryId with
  | .some info => pure info
  | .none => throw (.error (.action .noEntity))

theorem registryInfo_eq_ok {state : State limits} {registryId : TrustRegistryId} {info : TrustRegistryInfo limits} :
    registryInfo state registryId = .ok info ↔ state.trustRegistriesInfo registryId = some info := by
  unfold registryInfo
  split <;> simp_all [pure, Except.pure, throw, throwThe, MonadExceptOf.throw]

/-- `ensure!(!self.is_empty(), EmptyPayload)`. -/
def ensureNotEmpty (len : Nat) : Except (Failure CallError) Unit :=
  if len = 0 then throw (.error (.action .emptyPayload)) else pure ()

/-- A call of the pallet, run from its action wrapper. -/
def dispatch (call : Call limits) (state : State limits) : Except (Failure CallError) (State limits) :=
  match call with
  | .initOrUpdateTrustRegistry action signer => do
      -- the convener of an existing registry is the only one to update it
      if let .some info := state.trustRegistriesInfo action.registryId then
        liftModule (signer.ensureControls info)
      let (registries, info) ←
        liftModule (initOrUpdateTrustRegistry_ action (state.convenerTrustRegistries signer) signer)
      pure { state with
        trustRegistriesInfo := Function.update state.trustRegistriesInfo action.registryId (some info)
        convenerTrustRegistries := Function.update state.convenerTrustRegistries signer registries }
  | .setSchemasMetadata action signer => do
      ensureNotEmpty action.len
      let info ← registryInfo state action.registryId
      liftBody (setSchemasMetadata_ action info signer state)
  | .updateDelegatedIssuers action signer => do
      let config := state.trustRegistryIssuerConfigurations action.registryId signer
      let (state, config) ← liftBody (updateDelegatedIssuers_ action config signer state)
      pure { state with
        trustRegistryIssuerConfigurations :=
          update₂ state.trustRegistryIssuerConfigurations action.registryId signer config }
  | .suspendIssuers action signer => do
      ensureNotEmpty action.issuers.size
      let info ← registryInfo state action.registryId
      liftModule (signer.ensureControls info)
      liftModule (suspendIssuers_ action state)
  | .unsuspendIssuers action signer => do
      ensureNotEmpty action.issuers.size
      let info ← registryInfo state action.registryId
      liftModule (signer.ensureControls info)
      liftModule (unsuspendIssuers_ action state)
  | .changeParticipants action signers => do
      ensureNotEmpty action.participants.updates.size
      let _ ← registryInfo state action.registryId
      let participants ← liftBody
        (changeParticipants_ action (state.trustRegistriesParticipants action.registryId) signers)
      pure { state with
        trustRegistriesParticipants :=
          Function.update state.trustRegistriesParticipants action.registryId participants }
  | .setParticipantInformation action _ => do
      let _ ← registryInfo state action.registryId
      let information ← liftModule
        (setParticipantInformation_ action (state.trustRegistriesParticipants action.registryId))
      pure { state with
        trustRegistryParticipantsInformation :=
          update₂ state.trustRegistryParticipantsInformation action.registryId action.participant
            (some information) }

/-- One successful call, by any signer. -/
def Step (state next : State limits) : Prop :=
  ∃ call : Call limits, dispatch call state = .ok next

/-- The states a run of successful calls leads to from the empty storage. -/
def Reachable (state : State limits) : Prop :=
  Relation.ReflTransGen Step State.empty state

/-- The calls of a list, one after the other from a state; the run stops at the first
call that fails. -/
def runCalls (calls : List (Call limits)) (state : State limits) : Except (Failure CallError) (State limits) :=
  calls.foldlM (fun state call => dispatch call state) state

/-- A run of calls that succeeds from a reachable state ends in a reachable state. -/
theorem Reachable.runCalls {calls : List (Call limits)} {state next : State limits}
    (reachable : Reachable state) (ran : runCalls calls state = .ok next) : Reachable next :=
  Except.foldlM_invariant (fun current _ => Reachable current) reachable
    (fun _ call _ _ current stepped => current.tail ⟨call, stepped⟩) ran

end DockSubstrate.TrustRegistry
