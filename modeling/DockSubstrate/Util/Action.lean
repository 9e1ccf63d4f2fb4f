import Mathlib
import DockSubstrate.Lib.MachineInt
import DockSubstrate.Lib.Except

/-!
# Actions

The errors of `util/action.rs` that an action raises before its function runs, the
nonces of `util/with_nonce.rs` that protect a signed action from replay, and the signer
rule of `util/set.rs` that a multi-signed action consumes one signer at a time.

`InclusionRule.SignedBy` says which sequences of signers meet a rule exactly: all of its
signers, each once and in any order, or exactly one of them.  `signedBy_cons` reads that
off one `exclude` at a time, which is how `execute_inner` consumes the rule.
-/

namespace DockSubstrate.Util

/-- `ActionExecutionError`. -/
inductive ActionExecutionError where
  | noEntity
  | emptyPayload
  | invalidSigner
  | notEnoughSignatures
  | tooManySignatures
  | conversionError
  deriving DecidableEq, Repr

/-- `NonceError`. -/
inductive NonceError where
  | incorrectNonce
  deriving DecidableEq, Repr

/-- `WithNonce`: data stored with the nonce of its last signed change. -/
structure WithNonce (D : Type) where
  nonce : Nat
  data : D
  deriving DecidableEq, Repr

namespace WithNonce

open DockSubstrate.Lib

/-- `WithNonce::next_nonce`: the nonce plus one, unless it overflows. -/
def nextNonce (nonce : Nat) : Option Nat :=
  checkedAdd nonce 1

/-- `WithNonce::is_next_nonce`. -/
def isNextNonce (current nonce : Nat) : Bool :=
  some nonce == nextNonce current

/-- `WithNonce::try_update`: the nonce moves to the given one, which must be the next. -/
def tryUpdate {D : Type} (self : WithNonce D) (nonce : Nat) : Except NonceError (WithNonce D) :=
  if isNextNonce self.nonce nonce then .ok { self with nonce } else .error .incorrectNonce

theorem isNextNonce_iff {current nonce : Nat} :
    isNextNonce current nonce = true ↔ nonce = current + 1 ∧ nonce ≤ u32Max := by
  simp only [isNextNonce, nextNonce, beq_iff_eq, eq_comm (a := some nonce), checkedAdd_eq_some_iff]
  constructor
  · rintro ⟨fits, rfl⟩
    exact ⟨rfl, fits⟩
  · rintro ⟨rfl, fits⟩
    exact ⟨fits, rfl⟩

/-- `try_update` succeeds exactly with the next nonce, which it stores. -/
theorem tryUpdate_eq_ok {D : Type} {self updated : WithNonce D} {nonce : Nat} :
    self.tryUpdate nonce = .ok updated ↔
      nonce = self.nonce + 1 ∧ nonce ≤ u32Max ∧ updated = { self with nonce } := by
  unfold tryUpdate
  split
  · rename_i next
    obtain ⟨rfl, fits⟩ := isNextNonce_iff.mp next
    simp [fits, eq_comm]
  · rename_i notNext
    simp only [reduceCtorEq, false_iff]
    rintro ⟨rfl, fits, -⟩
    exact notNext (isNextNonce_iff.mpr ⟨rfl, fits⟩)

end WithNonce

/-- `OptionExt::update_with`: the stored value is converted, `f` runs on what converted, and
what `f` leaves is converted back; a value that does not convert, either way, becomes
`None`.  On an error the caller's `try_mutate` discards the write. -/
def updateWith {V S R ε : Type} (into : V → Option S) (back : S → Option V)
    (f : Option S → Except ε (R × Option S)) (self : Option V) : Except ε (R × Option V) := do
  let (result, entity) ← f (self.bind into)
  pure (result, entity.bind back)

theorem updateWith_eq_ok {V S R ε : Type} {into : V → Option S} {back : S → Option V}
    {f : Option S → Except ε (R × Option S)} {self value : Option V} {result : R} :
    updateWith into back f self = .ok (result, value) ↔
      ∃ entity, f (self.bind into) = .ok (result, entity) ∧ value = entity.bind back := by
  simp only [updateWith, Lib.Except.bind_eq_ok, Lib.Except.pure_eq_ok, Prod.mk.injEq, Prod.exists]
  constructor
  · rintro ⟨result', entity, ran, rfl, rfl⟩
    exact ⟨entity, ran, rfl⟩
  · rintro ⟨entity, ran, rfl⟩
    exact ⟨result, entity, ran, rfl, rfl⟩

/-- `InclusionRule`: the signers still required, any one of a set or all of a set. -/
inductive InclusionRule (V : Type) where
  | anyOf (values : Finset V)
  | all (values : Finset V)
  deriving DecidableEq

/-- `ItemNotFound`: the signer is not one of the required signers. -/
structure ItemNotFound where
  deriving DecidableEq, Repr

namespace InclusionRule

variable {V : Type} [DecidableEq V]

/-- `InclusionRule::all`: all of the given signers, or no rule when there are none. -/
def ofAll (items : List V) : Option (InclusionRule V) :=
  if items.toFinset = ∅ then none else some (all items.toFinset)

theorem ofAll_of_ne_nil {items : List V} (nonEmpty : items ≠ []) : ofAll items = some (all items.toFinset) := by
  simp [ofAll, nonEmpty]

def contains : InclusionRule V → V → Bool
  | anyOf values, value => decide (value ∈ values)
  | all values, value => decide (value ∈ values)

/-- `exclude`: the rule left once `value` has signed, `None` when nobody else must sign. -/
def exclude (self : InclusionRule V) (value : V) : Except ItemNotFound (Option (InclusionRule V)) :=
  if self.contains value then
    .ok (match self with
      | anyOf _ => none
      | all values => if values.erase value = ∅ then none else some (all (values.erase value)))
  else .error ⟨⟩

/-- The signers a rule asks for, met exactly by a sequence of signers: for `All`, each of
its signers once, in any order; for `AnyOf`, one of its signers alone. -/
def SignedBy : InclusionRule V → List V → Prop
  | all values, signers => signers ≠ [] ∧ signers.Nodup ∧ signers.toFinset = values
  | anyOf values, signers => ∃ value ∈ values, signers = [value]

instance (rule : InclusionRule V) (signers : List V) : Decidable (rule.SignedBy signers) := by
  cases rule <;> unfold SignedBy <;> infer_instance

/-- `SignedBy` of the rule left after a signer: no rule is met by no more signers. -/
def SignedByAfter : Option (InclusionRule V) → List V → Prop
  | none, signers => signers = []
  | some rule, signers => rule.SignedBy signers

theorem signedBy_nil (rule : InclusionRule V) : ¬ rule.SignedBy [] := by
  cases rule <;> simp [SignedBy]

theorem exclude_anyOf {values : Finset V} {value : V} {next : Option (InclusionRule V)} :
    (anyOf values).exclude value = .ok next ↔ value ∈ values ∧ next = none := by
  simp only [exclude, contains, decide_eq_true_eq]
  by_cases mem : value ∈ values <;> simp [mem, eq_comm (a := next)]

theorem exclude_all {values : Finset V} {value : V} {next : Option (InclusionRule V)} :
    (all values).exclude value = .ok next ↔
      value ∈ values ∧ next = if values.erase value = ∅ then none else some (all (values.erase value)) := by
  simp only [exclude, contains, decide_eq_true_eq]
  by_cases mem : value ∈ values <;> simp [mem, eq_comm (a := next)]

/-- A sequence of signers meets a rule exactly when its first signer is excluded from the
rule and the rest meets what is left. -/
theorem signedBy_cons {rule : InclusionRule V} {signer : V} {rest : List V} :
    rule.SignedBy (signer :: rest) ↔ ∃ next, rule.exclude signer = .ok next ∧ SignedByAfter next rest := by
  cases rule with
  | anyOf values =>
      simp only [SignedBy, List.cons.injEq, exclude_anyOf]
      constructor
      · rintro ⟨_, mem, rfl, rfl⟩
        exact ⟨none, ⟨mem, rfl⟩, rfl⟩
      · rintro ⟨_, ⟨mem, rfl⟩, rest_nil⟩
        exact ⟨signer, mem, rfl, rest_nil⟩
  | all values =>
      simp only [SignedBy, exclude_all, List.nodup_cons, List.toFinset_cons]
      constructor
      · rintro ⟨-, ⟨fresh, nodup⟩, covers⟩
        have mem : signer ∈ values := covers ▸ Finset.mem_insert_self signer _
        have rest_eq : rest.toFinset = values.erase signer := by
          rw [← covers, Finset.erase_insert (by simpa using fresh)]
        refine ⟨_, ⟨mem, rfl⟩, ?_⟩
        split
        · rename_i emptied
          exact List.toFinset_eq_empty_iff _ |>.mp (rest_eq.trans emptied)
        · rename_i left
          refine ⟨?_, nodup, rest_eq⟩
          rintro rfl
          exact left (rest_eq ▸ List.toFinset_nil)
      · rintro ⟨_, ⟨mem, rfl⟩, after⟩
        split at after
        · rename_i emptied
          cases (after : rest = [])
          refine ⟨List.cons_ne_nil _ _, ⟨List.not_mem_nil, List.nodup_nil⟩, ?_⟩
          rw [List.toFinset_nil, ← Finset.insert_erase mem, emptied]
        · obtain ⟨-, nodup, rest_eq⟩ := (after : SignedBy (all (values.erase signer)) rest)
          have fresh : signer ∉ rest := by
            intro mem_rest
            simpa [rest_eq] using List.mem_toFinset.mpr mem_rest
          exact ⟨List.cons_ne_nil _ _, ⟨fresh, nodup⟩, by rw [rest_eq, Finset.insert_erase mem]⟩

end InclusionRule

end DockSubstrate.Util
