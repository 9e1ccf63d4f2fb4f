import DockSubstrate.TokenMigration.Pallet
import DockSubstrate.Lib.Except

/-!
# Migration calls in the runtime

The runtime dispatches a call of the migration pallet, or a `Utility::batch` of calls, with
the sender's signed origin; its `BaseCallFilter` is `Everything`, so no call is filtered.
`pallet_utility` is a dependency of the runtime, not part of this repository, so its `batch`
is a parameter (`Utility`) with the behaviour the runtime relies on: a batch of more than
`batched_calls_limit` calls fails with `TooManyCalls`; one within the limit dispatches its
calls in order and stops at the first that fails, keeping what the calls before it did, and
succeeds; a panic aborts it.

The signed extension `OnlyMigrator` admits a `migrate` or a `give_bonuses` only from a
migrator, and it looks at the outer call alone.  `check_allowed_migrations_limit` unwraps the
sender's allowance on the strength of that check.  For an outer call of the pallet the check
is enough (`dispatch_ne_panic_of_validate`); a batch passes it whatever it holds, and a
`migrate` or `give_bonuses` inside it from an account that is not a migrator panics.
-/

namespace DockSubstrate.TokenMigration

open DockSubstrate.Lib

/-- The calls of the runtime that this model dispatches: the migration pallet's, and
`Utility::batch`. -/
inductive RuntimeCall (Account : Type) [LinearOrder Account] where
  | migrationModule (call : Call Account)
  | utilityBatch (calls : List (RuntimeCall Account))

/-- `pallet_utility`'s `batch` over the dispatches of its calls, each with the batch's origin,
and what the runtime relies on of it. -/
structure Utility (S : Type) where
  batchedCallsLimit : Nat
  batch : List (S → Except Failure S) → S → Except Failure S
  batch_tooManyCalls : ∀ calls state, batchedCallsLimit < calls.length →
    batch calls state = .error (.error (.utility .tooManyCalls))
  batch_nil : ∀ state, batch [] state = .ok state
  -- `BatchInterrupted`: the batch succeeds with what the calls before the failed one did
  batch_cons : ∀ call calls state, (call :: calls).length ≤ batchedCallsLimit →
    batch (call :: calls) state =
      match call state with
      | .ok next => batch calls next
      | .error (.error _) => .ok state
      | .error .panic => .error .panic

namespace Utility

variable {S : Type}

/-- The loop of `batch` once the number of calls is checked. -/
def dispatchInOrder : List (S → Except Failure S) → S → Except Failure S
  | [], state => pure state
  | call :: rest, state =>
      match call state with
      | .ok next => dispatchInOrder rest next
      | .error (.error _) => pure state
      | .error .panic => throw .panic

/-- A `batch` with a given `batched_calls_limit`. -/
def ofLimit (limit : Nat) : Utility S where
  batchedCallsLimit := limit
  batch calls state :=
    if limit < calls.length then .error (.error (.utility .tooManyCalls)) else dispatchInOrder calls state
  batch_tooManyCalls calls state tooMany := if_pos tooMany
  batch_nil state := rfl
  batch_cons call calls state within := by
    have callsWithin : ¬ limit < calls.length := by
      simp only [List.length_cons] at within
      omega
    rw [if_neg (Nat.not_lt.mpr within), dispatchInOrder]
    cases call state with
    | ok next => simp only [if_neg callsWithin]
    | error failure => cases failure <;> rfl

end Utility

namespace OnlyMigrator

variable {Account σ : Type} [LinearOrder Account]

/-- `OnlyMigrator::validate`, which `pre_dispatch` repeats: an outer `migrate` or
`give_bonuses` must come from a migrator; every other call is valid. -/
def validate (state : State Account σ) (who : Account) : RuntimeCall Account → Bool
  | .migrationModule (.migrate _) => (state.migrators who).isSome
  | .migrationModule (.giveBonuses _ _) => (state.migrators who).isSome
  | _ => true

end OnlyMigrator

section Dispatch

variable {Account σ : Type} [LinearOrder Account] (currency : Currency Account σ) (config : Config)
  (utility : Utility (State Account σ))

mutual

/-- A runtime call from an origin. -/
def dispatchRuntime (origin : Origin Account) : RuntimeCall Account → State Account σ → Except Failure (State Account σ)
  | .migrationModule call, state => dispatch currency config origin call state
  | .utilityBatch calls, state => utility.batch (dispatchEach origin calls) state

/-- The dispatches of a batch's calls, each with the batch's origin. -/
def dispatchEach (origin : Origin Account) : List (RuntimeCall Account) → List (State Account σ → Except Failure (State Account σ))
  | [] => []
  | call :: rest => (fun state => dispatchRuntime origin call state) :: dispatchEach origin rest

end

@[simp]
theorem length_dispatchEach (origin : Origin Account) (calls : List (RuntimeCall Account)) :
    (dispatchEach currency config utility origin calls).length = calls.length := by
  induction calls with
  | nil => rfl
  | cons call rest ih => rw [dispatchEach, List.length_cons, ih, List.length_cons]

end Dispatch

/-! ## Where the pallet panics -/

section Panics

variable {Account σ : Type} (currency : Currency Account σ) (config : Config)

theorem checkAllowedMigrationsLimit_eq_panic {state : State Account σ} {migrator : Account} {migCount : Nat} :
    checkAllowedMigrationsLimit state migrator migCount = .error .panic ↔ state.migrators migrator = none := by
  unfold checkAllowedMigrationsLimit
  cases state.migrators migrator with
  | none => simp
  | some allowedMigrations =>
      dsimp only
      split_ifs <;> simp

theorem checkIfMigratorHasSufficientBalance_ne_panic {state : State Account σ} {migrator : Account}
    {toTransfer : Nat} : checkIfMigratorHasSufficientBalance currency state migrator toTransfer ≠ .error .panic := by
  unfold checkIfMigratorHasSufficientBalance
  cases checkedSub (currency.freeBalance state.balances migrator) toTransfer with
  | none => simp
  | some newFree =>
      dsimp only
      split_ifs <;> simp

/-- `migrate_` panics exactly when the sender is not a migrator. -/
theorem migrate_eq_panic [LinearOrder Account] {state : State Account σ} {migrator : Account} {recipients : SortedMap Account Nat} :
    migrate_ currency migrator recipients state = .error .panic ↔ state.migrators migrator = none := by
  unfold migrate_
  simp [Except.bind_eq_error, checkAllowedMigrationsLimit_eq_panic,
    checkIfMigratorHasSufficientBalance_ne_panic]

/-- `give_bonuses_` panics exactly when the sender is not a migrator. -/
theorem giveBonuses_eq_panic [LinearOrder Account] {state : State Account σ} {migrator : Account}
    {swapBonusRecips vestingBonusRecips : List (Account × Nat × Nat)} :
    giveBonuses_ currency config migrator swapBonusRecips vestingBonusRecips state = .error .panic ↔
      state.migrators migrator = none := by
  unfold giveBonuses_
  simp [Except.bind_eq_error, checkAllowedMigrationsLimit_eq_panic,
    checkIfMigratorHasSufficientBalance_ne_panic]

theorem unlockSwapLoop_ne_panic (now : Nat) (bonuses : List (Nat × Nat)) (result : Nat × Nat) :
    unlockSwapLoop now bonuses result ≠ .error .panic := by
  induction bonuses generalizing result with
  | nil => simp [unlockSwapLoop]
  | cons bonus rest ih =>
      obtain ⟨amount, unlockAt⟩ := bonus
      obtain ⟨i, bonusToUnlock⟩ := result
      unfold unlockSwapLoop
      split_ifs
      · cases checkedAddU64 bonusToUnlock amount with
        | none => simp
        | some total => exact ih _
      · simp

theorem unlockSwapBonus_ne_panic [LinearOrder Account] {state : State Account σ} {who : Account} :
    unlockSwapBonus currency who state ≠ .error .panic := by
  unfold unlockSwapBonus
  cases state.bonuses who with
  | none => simp
  | some bonus =>
      dsimp only
      split_ifs
      · simp [Except.bind_eq_error]
      · simp only [ne_eq, Except.bind_eq_error]
        rintro (panicked | ⟨⟨i, bonusToUnlock⟩, -, rest⟩)
        · exact unlockSwapLoop_ne_panic _ _ _ panicked
        · split_ifs at rest <;> simp at rest

theorem vestOne_ne_panic (i milestonesPassed : Nat) (bonus : Nat × Nat × Nat) (result : Nat × List Nat) :
    vestOne config i milestonesPassed bonus result ≠ .error .panic := by
  obtain ⟨totalBonus, lockedBonus, start⟩ := bonus
  obtain ⟨bonusToUnlock, completelyVested⟩ := result
  unfold vestOne
  dsimp only
  split_ifs
  · cases checkedAddU64 bonusToUnlock lockedBonus <;> simp
  · cases checkedSub totalBonus (milestonesPassed * (totalBonus / config.vestingMilestones)) with
    | none => simp
    | some expectedLocked =>
        dsimp only
        split_ifs
        · cases checkedAddU64 bonusToUnlock (lockedBonus - expectedLocked) <;> simp
        · simp

/-- The vesting loop panics only on a milestone of no blocks. -/
theorem vestLoop_ne_panic {nowPlus1 milestoneDuration : Nat} (positive : 0 < milestoneDuration) (i : Nat)
    (bonuses : List (Nat × Nat × Nat)) (result : Nat × List Nat) :
    vestLoop config nowPlus1 milestoneDuration i bonuses result ≠ .error .panic := by
  induction bonuses generalizing i result with
  | nil => simp [vestLoop]
  | cons bonus rest ih =>
      unfold vestLoop
      cases checkedSub nowPlus1 bonus.2.2 with
      | none => simp
      | some elapsed =>
          simp [Except.bind_eq_error, Nat.pos_iff_ne_zero.mp positive, vestOne_ne_panic]
          intro _ _ _ _
          exact ih _ _

theorem unlockVestingBonus_ne_panic [LinearOrder Account] (milestone : 0 < config.vestingDuration / config.vestingMilestones)
    {state : State Account σ} {who : Account} : unlockVestingBonus currency config who state ≠ .error .panic := by
  unfold unlockVestingBonus
  cases state.bonuses who with
  | none => simp
  | some bonus =>
      dsimp only
      split_ifs
      · simp [Except.bind_eq_error]
      · simp only [ne_eq, Except.bind_eq_error]
        rintro (panicked | ⟨⟨bonusToUnlock, vestingBonuses, completelyVested⟩, -, rest⟩)
        · exact vestLoop_ne_panic config milestone _ _ _ panicked
        · split_ifs at rest <;> simp at rest

theorem attempt_ne_panic {run : State Account σ → Except Failure (State Account σ)} {state : State Account σ}
    (safe : run state ≠ .error .panic) : attempt run state ≠ .error .panic := by
  unfold attempt
  split
  · simp
  · simp
  · contradiction

theorem unlockBonus_ne_panic [LinearOrder Account] (milestone : 0 < config.vestingDuration / config.vestingMilestones)
    {state : State Account σ} {who : Account} : unlockBonus currency config who state ≠ .error .panic := by
  unfold unlockBonus
  simp only [ne_eq, Except.bind_eq_error]
  rintro (swapPanicked | ⟨⟨swapClaimed, afterSwap⟩, -, rest⟩)
  · exact attempt_ne_panic (unlockSwapBonus_ne_panic currency) swapPanicked
  · rcases rest with vestingPanicked | ⟨⟨vestingClaimed, afterVesting⟩, -, rest⟩
    · exact attempt_ne_panic (unlockVestingBonus_ne_panic currency config milestone) vestingPanicked
    · split_ifs at rest <;> simp at rest

/-- What `check_allowed_migrations_limit` relies on, for an outer call of the pallet: a call
that `OnlyMigrator` admits does not panic, once a milestone lasts a block or more. -/
theorem dispatch_ne_panic_of_validate [LinearOrder Account] (milestone : 0 < config.vestingDuration / config.vestingMilestones)
    {state : State Account σ} {who : Account} {call : Call Account}
    (valid : OnlyMigrator.validate state who (.migrationModule call) = true) (utility : Utility (State Account σ)) :
    dispatchRuntime currency config utility (.signed who) (.migrationModule call) state ≠ .error .panic := by
  have unlocked : ∀ target, unlockBonus currency config target state ≠ .error .panic :=
    fun _ => unlockBonus_ne_panic currency config milestone
  have swapUnlocked : ∀ target, unlockSwapBonus currency target state ≠ .error .panic :=
    fun _ => unlockSwapBonus_ne_panic currency
  have vestingUnlocked : ∀ target, unlockVestingBonus currency config target state ≠ .error .panic :=
    fun _ => unlockVestingBonus_ne_panic currency config milestone
  cases call with
  | migrate recipients =>
      simpa [dispatchRuntime, dispatch, ensureSigned, OnlyMigrator.validate, migrate_eq_panic,
        Option.isSome_iff_ne_none] using valid
  | giveBonuses swapBonusRecips vestingBonusRecips =>
      simpa [dispatchRuntime, dispatch, ensureSigned, OnlyMigrator.validate, giveBonuses_eq_panic,
        Option.isSome_iff_ne_none] using valid
  | expandMigrator | contractMigrator | addMigrator | removeMigrator =>
      simp [dispatchRuntime, dispatch, ensureRoot, Except.bind_eq_error]
  | claimBonus => simpa [dispatchRuntime, dispatch, ensureSigned] using unlocked who
  | claimBonusForOther target => simpa [dispatchRuntime, dispatch, ensureSigned] using unlocked target
  | claimSwapBonus => simpa [dispatchRuntime, dispatch, ensureSigned] using swapUnlocked who
  | claimSwapBonusForOther target => simpa [dispatchRuntime, dispatch, ensureSigned] using swapUnlocked target
  | claimVestingBonus => simpa [dispatchRuntime, dispatch, ensureSigned] using vestingUnlocked who
  | claimVestingBonusForOther target =>
      simpa [dispatchRuntime, dispatch, ensureSigned] using vestingUnlocked target

end Panics

/-! ## Migrations in a batch -/

section Batch

variable {Account σ : Type} [LinearOrder Account] (currency : Currency Account σ) (config : Config)
  (utility : Utility (State Account σ))

/-- A panic of a call aborts the batch it starts, when the batch is within the limit. -/
theorem batch_eq_panic_of_head {origin : Origin Account} {call : RuntimeCall Account}
    {state : State Account σ} (panicked : dispatchRuntime currency config utility origin call state = .error .panic)
    {rest : List (RuntimeCall Account)} (within : rest.length < utility.batchedCallsLimit) :
    dispatchRuntime currency config utility origin (.utilityBatch (call :: rest)) state = .error .panic := by
  rw [dispatchRuntime, dispatchEach, utility.batch_cons _ _ _ (by simpa using within)]
  simp only [panicked]

/-- `OnlyMigrator` admits a `Utility::batch` that starts with a `migrate` or a
`give_bonuses`, and the batch, within `batched_calls_limit`, panics when its sender is not a
migrator. -/
theorem batchedMigration_panics (state : State Account σ) (who : Account)
    (notMigrator : state.migrators who = none) (recipients : SortedMap Account Nat)
    (swapBonusRecips vestingBonusRecips : List (Account × Nat × Nat)) (rest : List (RuntimeCall Account))
    (within : rest.length < utility.batchedCallsLimit) :
    (OnlyMigrator.validate state who (.utilityBatch (.migrationModule (.migrate recipients) :: rest)) = true ∧
      dispatchRuntime currency config utility (.signed who)
        (.utilityBatch (.migrationModule (.migrate recipients) :: rest)) state = .error .panic) ∧
    (OnlyMigrator.validate state who
        (.utilityBatch (.migrationModule (.giveBonuses swapBonusRecips vestingBonusRecips) :: rest)) = true ∧
      dispatchRuntime currency config utility (.signed who)
        (.utilityBatch (.migrationModule (.giveBonuses swapBonusRecips vestingBonusRecips) :: rest)) state =
          .error .panic) := by
  have migratePanics : dispatchRuntime currency config utility (.signed who)
      (.migrationModule (.migrate recipients)) state = .error .panic := by
    simpa [dispatchRuntime, dispatch, ensureSigned] using (migrate_eq_panic currency).mpr notMigrator
  have giveBonusesPanics : dispatchRuntime currency config utility (.signed who)
      (.migrationModule (.giveBonuses swapBonusRecips vestingBonusRecips)) state = .error .panic := by
    simpa [dispatchRuntime, dispatch, ensureSigned] using (giveBonuses_eq_panic currency config).mpr notMigrator
  exact ⟨⟨rfl, batch_eq_panic_of_head currency config utility migratePanics within⟩,
    ⟨rfl, batch_eq_panic_of_head currency config utility giveBonusesPanics within⟩⟩

theorem batchedMigration_panics_unregistered :
    (fun _ => none : Nat → Option Nat) 0 = none ∧
    ([] : List (RuntimeCall Nat)).length < (Utility.ofLimit 1 : Utility (State Nat (Nat → Nat × Nat))).batchedCallsLimit ∧
    ((OnlyMigrator.validate (⟨fun _ => none, fun _ => none, fun _ => (0, 0), 0⟩ : State Nat (Nat → Nat × Nat)) 0
        (.utilityBatch [.migrationModule (.migrate ∅)]) = true ∧
      dispatchRuntime plainCurrency runtimeConfig (Utility.ofLimit 1) (.signed 0)
        (.utilityBatch [.migrationModule (.migrate ∅)]) ⟨fun _ => none, fun _ => none, fun _ => (0, 0), 0⟩ =
          .error .panic) ∧
    (OnlyMigrator.validate (⟨fun _ => none, fun _ => none, fun _ => (0, 0), 0⟩ : State Nat (Nat → Nat × Nat)) 0
        (.utilityBatch [.migrationModule (.giveBonuses [] [])]) = true ∧
      dispatchRuntime plainCurrency runtimeConfig (Utility.ofLimit 1) (.signed 0)
        (.utilityBatch [.migrationModule (.giveBonuses [] [])]) ⟨fun _ => none, fun _ => none, fun _ => (0, 0), 0⟩ =
          .error .panic)) :=
  ⟨rfl, Nat.zero_lt_one, batchedMigration_panics plainCurrency runtimeConfig (Utility.ofLimit 1)
    ⟨fun _ => none, fun _ => none, fun _ => (0, 0), 0⟩ 0 rfl ∅ [] [] [] Nat.zero_lt_one⟩

end Batch

end DockSubstrate.TokenMigration
