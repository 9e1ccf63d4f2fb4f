import Mathlib
import DockSubstrate.Common.SignedActionWithNonce

/-!
# What a signed action of another pallet leaves

`execute_removable` and `execute` of `SignedActionWithNonce`, taken apart once: the signer a
signature is authorized as is the one it names, the wrapper's check passed for it, its
entry is renewed with the action's nonce, and the target's new value is written back to
the storage the action's function left.  The pallets built on these executions read their
calls through these lemmas.
-/

namespace DockSubstrate.DidModule

open DockSubstrate.Lib DockSubstrate.Util

variable {crypto : SignatureVerification StateChange}

/-- A signature is authorized as the signer it names, once the wrapper's check passed. -/
theorem authorizesSignedAction_signer {ε : Type} {state : State} {signature : DidOrDidMethodKeySignature}
    {message : StateChange} {check : DidOrDidMethodKey → Except ε Unit} {signer : DidOrDidMethodKey}
    (authorized : authorizesSignedAction crypto state signature message check = .ok (some signer)) :
    signer = signature.signer ∧ check signer = .ok () := by
  cases signature with
  | didSignature sig =>
      obtain ⟨key, -, -, checked, verified, -, signed⟩ := authorizesSignedAction_didSignature_eq_ok.mp authorized
      cases verified
      · simp at signed
      · cases signed
        exact ⟨rfl, checked⟩
  | didMethodKeySignature sig =>
      obtain ⟨checked, verified, -, signed⟩ := authorizesSignedAction_didMethodKeySignature_eq_ok.mp authorized
      cases verified
      · simp at signed
      · cases signed
        exact ⟨rfl, checked⟩

namespace SignedActionWithNonce

open DockSubstrate.Common (IntermediateError)

variable {σ V R ε : Type}

/-- `execute_removable` succeeds when the action is not empty, the signature authorizes the
signer it names on the target's value, the signer's entry takes the action's nonce, and the
action's function succeeds; the target's new value is then written back. -/
theorem executeRemovable_eq_ok {len nonce : Nat} {entry : σ → Option V} {write : σ → Option V → σ}
    {signature : DidOrDidMethodKeySignature} {message : StateChange}
    {check : Option V → DidOrDidMethodKey → Except ε Unit}
    {f : Option V → DidOrDidMethodKey → σ → Except (IntermediateError (Error ⊕ ε)) (R × Option V × σ)}
    {state next : State} {other written : σ} {result : R}
    (ran : executeRemovable crypto len nonce entry write signature message check f state other =
      .ok (result, next, written)) :
    len ≠ 0 ∧ check (entry other) signature.signer = .ok () ∧
      ∃ current, state.signerValue signature.signer = some current ∧ nonce = current.nonce + 1 ∧ nonce ≤ u32Max ∧
        ∃ data after, f (entry other) signature.signer other = .ok (result, data, after) ∧
          next = state.writeSigner signature.signer (some { current with nonce }) ∧ written = write after data := by
  simp only [executeRemovable] at ran
  split_ifs at ran with empty
  · simp at ran
  obtain ⟨signer, signed, ran⟩ := Except.bind_eq_ok.mp ran
  obtain ⟨rfl, checked⟩ := authorizesSignedAction_signer (signerOf_eq_ok.mp signed)
  obtain ⟨⟨⟨reached, data⟩, renewed, after⟩, increased, wrote⟩ := Except.bind_eq_ok.mp ran
  obtain ⟨-, current, found, fresh, fits, body, rfl⟩ := executeAndIncreaseNonce_eq_ok.mp increased
  obtain ⟨⟨reachedBody, dataBody, afterBody⟩, ranBody, packed⟩ := Except.bind_eq_ok.mp body
  simp only [Except.pure_eq_ok, Prod.mk.injEq] at packed wrote
  obtain ⟨⟨rfl, rfl⟩, rfl⟩ := packed
  obtain ⟨rfl, rfl, rfl⟩ := wrote
  exact ⟨empty, checked, current, found, fresh, fits, dataBody, afterBody, ranBody, rfl, rfl⟩

/-- `execute` succeeds as `execute_removable` does, on a target with a value, whose new
value the action's function returns. -/
theorem execute_eq_ok {len nonce : Nat} {entry : σ → Option V} {write : σ → Option V → σ}
    {signature : DidOrDidMethodKeySignature} {message : StateChange}
    {check : Option V → DidOrDidMethodKey → Except ε Unit}
    {f : V → DidOrDidMethodKey → σ → Except (IntermediateError (Error ⊕ ε)) (R × V × σ)}
    {state next : State} {other written : σ} {result : R}
    (ran : execute crypto len nonce entry write signature message check f state other = .ok (result, next, written)) :
    len ≠ 0 ∧ ∃ value, entry other = some value ∧ check (some value) signature.signer = .ok () ∧
      ∃ current, state.signerValue signature.signer = some current ∧ nonce = current.nonce + 1 ∧ nonce ≤ u32Max ∧
        ∃ data after, f value signature.signer other = .ok (result, data, after) ∧
          next = state.writeSigner signature.signer (some { current with nonce }) ∧ written = write after (some data) := by
  obtain ⟨empty, checked, current, found, fresh, fits, data, after, body, renewed, wrote⟩ :=
    executeRemovable_eq_ok ran
  cases stored : entry other with
  | none =>
      rw [stored] at body
      simp at body
  | some value =>
      rw [stored] at body checked
      obtain ⟨⟨reached, updated, afterBody⟩, ranBody, packed⟩ := Except.bind_eq_ok.mp body
      simp only [Except.pure_eq_ok, Prod.mk.injEq] at packed
      obtain ⟨rfl, rfl, rfl⟩ := packed
      exact ⟨empty, value, rfl, checked, current, found, fresh, fits, updated, afterBody, ranBody, renewed, wrote⟩

/-- `execute_view` succeeds when the action is not empty, the target has a value on which
the signature authorizes the signer it names, the signer's entry takes the action's nonce,
and the action's function succeeds on the storage. -/
theorem executeView_eq_ok {len nonce : Nat} {entry : σ → Option V} {signature : DidOrDidMethodKeySignature}
    {message : StateChange} {check : Option V → DidOrDidMethodKey → Except ε Unit}
    {f : V → DidOrDidMethodKey → σ → Except (IntermediateError (Error ⊕ ε)) (R × σ)}
    {state next : State} {other written : σ} {result : R}
    (ran : executeView crypto len nonce entry signature message check f state other = .ok (result, next, written)) :
    len ≠ 0 ∧ ∃ value, entry other = some value ∧ check (some value) signature.signer = .ok () ∧
      ∃ current, state.signerValue signature.signer = some current ∧ nonce = current.nonce + 1 ∧ nonce ≤ u32Max ∧
        f value signature.signer other = .ok (result, written) ∧
          next = state.writeSigner signature.signer (some { current with nonce }) := by
  simp only [executeView] at ran
  split_ifs at ran with empty
  · simp at ran
  cases stored : entry other with
  | none => simp [stored] at ran
  | some value =>
      simp only [stored] at ran
      obtain ⟨signer, signed, ran⟩ := Except.bind_eq_ok.mp ran
      obtain ⟨rfl, checked⟩ := authorizesSignedAction_signer (signerOf_eq_ok.mp signed)
      obtain ⟨-, current, found, fresh, fits, body, rfl⟩ := executeAndIncreaseNonce_eq_ok.mp ran
      exact ⟨empty, value, rfl, checked, current, found, fresh, fits, body, rfl⟩

end SignedActionWithNonce

end DockSubstrate.DidModule
