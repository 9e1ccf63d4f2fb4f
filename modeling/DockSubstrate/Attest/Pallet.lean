import Mathlib
import DockSubstrate.Common.SignedExecution
import DockSubstrate.Common.WithDid
import DockSubstrate.Lib.BoundedMap

/-!
# Attestations

The attest pallet (`modules/attest`): `Attestations` maps an attester, a DID or DID method
key, to its attestation, a priority and an optional IRI; an attester with no entry reads the
default attestation, of priority `0` (a `ValueQuery`).  Its one call, `set_claim`, is an
action signed by the attester with its next nonce, whose target is the signer itself
(`signed_with_signer_target`); `set_claim_` replaces the attestation by one of higher
priority.  So an attester's priority never goes down, and only the attester's own calls
change its attestation (`attestations_along_runs`).  The message a signature covers is the
runtime's `StateChange` of the action, which `encode` gives.
-/

namespace DockSubstrate.AttestModule

open DockSubstrate.Lib DockSubstrate.Common DockSubstrate.DidModule

/-- The bound of an IRI's bytes. -/
structure Limits where
  maxIriSize : Nat
  deriving DecidableEq, Repr

/-- `Attester`. -/
structure Attester where
  did : DidOrDidMethodKey
  deriving DecidableEq, Repr

/-- `Attestation`: `priority` is a `u64`, which the pallet only compares. -/
structure Attestation (limits : Limits) where
  priority : Nat
  iri : Option (BoundedBytes limits.maxIriSize)

/-- `SetAttestationClaim`. -/
structure SetAttestationClaim (limits : Limits) where
  attest : Attestation limits
  nonce : Nat

/-- `attest::Error`. -/
inductive Error where
  | priorityTooLow
  deriving DecidableEq, Repr

/-- `Attestations`. -/
structure State (limits : Limits) where
  attestations : Attester → Attestation limits

/-- A call of the pallet with its signature. -/
inductive Call (limits : Limits) where
  | setClaim (attests : SetAttestationClaim limits) (signature : DidOrDidMethodKeySignature)

variable {limits : Limits}

/-- The signer of a call. -/
def Call.signer : Call limits → DidOrDidMethodKey
  | .setClaim _ signature => signature.signer

/-- The default attestation, of priority `0` and no IRI. -/
def Attestation.default : Attestation limits :=
  ⟨0, none⟩

/-- `try_mutate_exists` on `Attestations`: removing the entry leaves the default. -/
def State.writeAttestation (attester : Attester) (state : State limits) (attestation : Option (Attestation limits)) :
    State limits :=
  ⟨Function.update state.attestations attester (attestation.getD .default)⟩

/-- `set_claim_`: the new attestation must have a higher priority than the current one. -/
def setClaim_ (action : SetAttestationClaim limits) (current : Attestation limits) (_ : Attester) :
    Except Error (Unit × Attestation limits) := do
  (unless current.priority < action.attest.priority do throw .priorityTooLow)
  pure ((), action.attest)

/-- The default `AuthorizeTarget` of `Attester`, which accepts every signer. -/
def noCheck (_ : DidOrDidMethodKey) : Except Error Unit :=
  pure ()

/-- A body's error, as `SignedActionWithNonce` passes it on. -/
def lift {α : Type} (body : Except Error α) : Except (IntermediateError (DidModule.Error ⊕ Error)) α :=
  body.mapError fun error => .dispatch (.inr error)

section Dispatch

variable (crypto : SignatureVerification StateChange) (encode : SetAttestationClaim limits → StateChange)

open SignedActionWithNonce in
/-- `set_claim`: `execute` on the signer's own attestation, with `set_claim_`. -/
def dispatch (call : Call limits) (did : DidModule.State) (state : State limits) :
    Except (IntermediateError (DidModule.Error ⊕ Error)) (DidModule.State × State limits) := do
  match call with
  | .setClaim action signature =>
      let attester : Attester := ⟨signature.signer⟩
      let ((), did, state) ← execute crypto 1 action.nonce (fun state => some (state.attestations attester))
        (State.writeAttestation attester) signature (encode action) (fun _ => noCheck)
        (fun current signer state => do
          let (result, attestation) ← lift (setClaim_ action current ⟨signer⟩)
          pure (result, attestation, state)) did state
      pure (did, state)

end Dispatch

/-! ## What a call leaves -/

section Calls

variable {crypto : SignatureVerification StateChange} {backend : Backend} {encode : SetAttestationClaim limits → StateChange}

theorem setClaim_eq_ok {action : SetAttestationClaim limits} {current written : Attestation limits}
    {attester : Attester} {done : Unit} :
    setClaim_ action current attester = .ok (done, written) ↔
      current.priority < action.attest.priority ∧ written = action.attest := by
  unfold setClaim_
  by_cases higher : current.priority < action.attest.priority
  · simp [higher, @eq_comm _ written]
  · simp [higher]

/-- `set_claim` gives its signer the new attestation, of a higher priority than it had. -/
theorem dispatch_setClaim {action : SetAttestationClaim limits} {signature : DidOrDidMethodKeySignature}
    {did did' : DidModule.State} {state state' : State limits}
    (done : dispatch crypto encode (.setClaim action signature) did state = .ok (did', state')) :
    (state.attestations ⟨signature.signer⟩).priority < action.attest.priority ∧
      state' = state.writeAttestation ⟨signature.signer⟩ (some action.attest) := by
  simp only [dispatch, Except.bind_eq_ok, Except.pure_eq_ok, Prod.mk.injEq] at done
  obtain ⟨⟨⟨⟩, did'', state''⟩, ran, rfl, rfl⟩ := done
  obtain ⟨-, value, found, -, -, -, -, -, data, after, body, -, rfl⟩ := SignedActionWithNonce.execute_eq_ok ran
  cases found
  obtain ⟨⟨⟨⟩, written⟩, ranBody, packed⟩ := Except.bind_eq_ok.mp body
  simp only [Except.pure_eq_ok, Prod.mk.injEq] at packed
  obtain ⟨-, rfl, rfl⟩ := packed
  rw [lift, Except.mapError_eq_ok] at ranBody
  obtain ⟨higher, rfl⟩ := setClaim_eq_ok.mp ranBody
  exact ⟨higher, rfl⟩

/-- A call raises its signer's priority and leaves every other attester's attestation. -/
theorem dispatch_attestations {call : Call limits} {did did' : DidModule.State} {state state' : State limits}
    (done : dispatch crypto encode call did state = .ok (did', state')) (attester : Attester) :
    (state.attestations attester).priority ≤ (state'.attestations attester).priority ∧
      (attester ≠ ⟨call.signer⟩ → state'.attestations attester = state.attestations attester) := by
  cases call with
  | setClaim action signature =>
      obtain ⟨higher, rfl⟩ := dispatch_setClaim done
      by_cases signer : attester = ⟨signature.signer⟩
      · subst signer
        simp only [State.writeAttestation, Function.update_self, Option.getD_some]
        exact ⟨higher.le, fun other => absurd rfl other⟩
      · have kept : (state.writeAttestation ⟨signature.signer⟩ (some action.attest)).attestations attester =
            state.attestations attester := Function.update_of_ne signer _ _
        rw [kept]
        exact ⟨le_rfl, fun _ => rfl⟩

/-- Along any interleaving of DID calls and `set_claim` calls, from any state, an attester's
priority never goes down, and an attester that signs none of the `set_claim` calls keeps its
attestation. -/
theorem attestations_along_runs (chain : WithDid (State limits)) (events : List (WithDid.Event (Call limits)))
    (attester : Attester) :
    (chain.pallet.attestations attester).priority ≤
        ((Lib.run (WithDid.apply crypto backend (dispatch crypto encode)) chain events).pallet.attestations attester).priority ∧
      ((∀ call, WithDid.Event.pallet call ∈ events → attester ≠ ⟨call.signer⟩) →
        (Lib.run (WithDid.apply crypto backend (dispatch crypto encode)) chain events).pallet.attestations attester =
          chain.pallet.attestations attester) :=
  ⟨@WithDid.run_keeps _ _ _ crypto backend (dispatch crypto encode)
      (fun state => (chain.pallet.attestations attester).priority ≤ (state.attestations attester).priority) events
      (fun _ _ _ _ _ _ done before => before.trans (dispatch_attestations done attester).1) chain le_rfl,
    fun unsigned => @WithDid.run_keeps _ _ _ crypto backend (dispatch crypto encode)
      (fun state => state.attestations attester = chain.pallet.attestations attester) events
      (fun call mem _ _ _ _ done same => ((dispatch_attestations done attester).2 (unsigned call mem)).trans same)
      chain rfl⟩

/-- DIDs `0` and `1`, each with a control key, and no attestations. -/
def twoAttesters : WithDid (State ⟨0⟩) :=
  ⟨DidModule.genesis [(⟨0⟩, controlKey 0), (⟨1⟩, controlKey 1)], ⟨fun _ => .default⟩⟩

/-- DID `1`'s claim of priority `1`, with its first nonce. -/
def claimByOne : Call ⟨0⟩ :=
  .setClaim ⟨⟨1, none⟩, 1⟩ (.didSignature ⟨⟨1⟩, 1, .sr25519 1⟩)

/-- DID `1` sets its claim; DID `0`, which signs nothing, keeps its attestation. -/
theorem attestations_along_runs_otherAttester :
    (∀ call, WithDid.Event.pallet call ∈ [.pallet claimByOne] → (⟨.did ⟨0⟩⟩ : Attester) ≠ ⟨call.signer⟩) ∧
      ((Lib.run (WithDid.apply acceptAll .byEncoding (dispatch acceptAll fun _ => .masterVote [] 0 0)) twoAttesters
          [.pallet claimByOne]).pallet.attestations ⟨.did ⟨1⟩⟩).priority = 1 ∧
      ((twoAttesters.pallet.attestations ⟨.did ⟨0⟩⟩).priority ≤
          ((Lib.run (WithDid.apply acceptAll .byEncoding (dispatch acceptAll fun _ => .masterVote [] 0 0)) twoAttesters
            [.pallet claimByOne]).pallet.attestations ⟨.did ⟨0⟩⟩).priority ∧
        ((∀ call, WithDid.Event.pallet call ∈ [.pallet claimByOne] → (⟨.did ⟨0⟩⟩ : Attester) ≠ ⟨call.signer⟩) →
          (Lib.run (WithDid.apply acceptAll .byEncoding (dispatch acceptAll fun _ => .masterVote [] 0 0)) twoAttesters
            [.pallet claimByOne]).pallet.attestations ⟨.did ⟨0⟩⟩ =
          twoAttesters.pallet.attestations ⟨.did ⟨0⟩⟩)) := by
  have unsigned : ∀ call, WithDid.Event.pallet call ∈ [.pallet claimByOne] →
      (⟨.did ⟨0⟩⟩ : Attester) ≠ ⟨call.signer⟩ := by
    intro call mem
    cases List.mem_singleton.mp mem
    decide
  exact ⟨unsigned, rfl, attestations_along_runs _ _ _⟩

end Calls

end DockSubstrate.AttestModule
