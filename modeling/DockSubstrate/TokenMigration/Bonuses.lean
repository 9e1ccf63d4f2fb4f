import DockSubstrate.TokenMigration.Pallet
import DockSubstrate.Lib.Except

/-!
# Giving bonuses

`add_swap_bonus` and `add_vesting_bonus` transfer the amount to the recipient and reserve it
there before they add the bonus to the recipient's `Bonus`, whose vector may be full.
`addBonus_cases` lists what a call can leave: the bonus recorded with its amount moved, or a
failure after none, one or both of the currency's steps.  `give_bonuses_` counts a failure
and goes on, so the last case stays: the amount is transferred and reserved, and no bonus
records it (`giveBonuses_reserves_unrecorded`).  A claim unreserves only what a recorded
bonus holds.
-/

namespace DockSubstrate.TokenMigration

open DockSubstrate.Lib

section Checks

variable {Account σ : Type} (currency : Currency Account σ)

theorem checkAllowedMigrationsLimit_eq_ok {state : State Account σ} {migrator : Account}
    {migCount allowedMigrations : Nat} :
    checkAllowedMigrationsLimit state migrator migCount = .ok allowedMigrations ↔
      state.migrators migrator = some allowedMigrations ∧ migCount ≤ allowedMigrations := by
  unfold checkAllowedMigrationsLimit
  cases state.migrators migrator with
  | none => simp
  | some allowed =>
      dsimp only
      split_ifs with within
      · simp only [Except.pure_eq_ok, Option.some.injEq]
        constructor
        · rintro rfl
          exact ⟨rfl, within⟩
        · rintro ⟨rfl, -⟩
          rfl
      · simp only [Option.some.injEq, false_iff, not_and]
        rintro rfl
        exact within

theorem checkIfMigratorHasSufficientBalance_eq_ok {state : State Account σ} {migrator : Account}
    {toTransfer : Nat} {u : Unit} :
    checkIfMigratorHasSufficientBalance currency state migrator toTransfer = .ok u ↔
      toTransfer ≤ currency.freeBalance state.balances migrator ∧
        currency.ensureCanWithdraw state.balances migrator toTransfer
          (currency.freeBalance state.balances migrator - toTransfer) = true := by
  unfold checkIfMigratorHasSufficientBalance
  cases checked : checkedSub (currency.freeBalance state.balances migrator) toTransfer with
  | none =>
      have short : ¬toTransfer ≤ currency.freeBalance state.balances migrator := by
        simpa [checkedSub] using checked
      simp [short]
  | some newFree =>
      obtain ⟨within, rfl⟩ := checkedSub_eq_some_iff.mp checked
      dsimp only
      split_ifs with allowed <;> simp [within, allowed]

end Checks

/-! ## One bonus -/

section AddBonus

variable {Account σ : Type} [LinearOrder Account] (currency : Currency Account σ)

/-- What `add_swap_bonus` and `add_vesting_bonus` can leave: the bonus recorded, with the
amount transferred and reserved; or a failure of the transfer, with nothing done; of the
reservation, with the amount transferred; or of the record, with the amount transferred and
reserved. -/
theorem addBonus_cases (record : Bonus → Option Bonus) (from_ to_ : Account) (amount : Nat)
    (state : State Account σ) :
    (∃ transferred reserved bonus, currency.transfer from_ to_ amount state.balances = some transferred ∧
      currency.reserve to_ amount transferred = some reserved ∧ record (getBonusStruct state to_) = some bonus ∧
      addBonus currency record from_ to_ amount state = (.ok (), updateBonus { state with balances := reserved } to_ bonus)) ∨
    (currency.transfer from_ to_ amount state.balances = none ∧
      addBonus currency record from_ to_ amount state = (.error .currency, state)) ∨
    (∃ transferred, currency.transfer from_ to_ amount state.balances = some transferred ∧
      currency.reserve to_ amount transferred = none ∧
      addBonus currency record from_ to_ amount state = (.error .currency, { state with balances := transferred })) ∨
    (∃ transferred reserved, currency.transfer from_ to_ amount state.balances = some transferred ∧
      currency.reserve to_ amount transferred = some reserved ∧ record (getBonusStruct state to_) = none ∧
      addBonus currency record from_ to_ amount state =
        (.error (.module .tooManyBonuses), { state with balances := reserved })) := by
  unfold addBonus
  cases currency.transfer from_ to_ amount state.balances with
  | none => exact .inr (.inl ⟨rfl, rfl⟩)
  | some transferred =>
      dsimp only
      cases reserve : currency.reserve to_ amount transferred with
      | none => exact .inr (.inr (.inl ⟨transferred, rfl, reserve, rfl⟩))
      | some reserved =>
          dsimp only
          cases record (getBonusStruct state to_) with
          | none => exact .inr (.inr (.inr ⟨transferred, reserved, rfl, reserve, rfl, rfl⟩))
          | some bonus => exact .inl ⟨transferred, reserved, bonus, rfl, reserve, rfl, rfl⟩

/-- `add_swap_bonus` to a recipient whose swap bonuses are full transfers and reserves the
amount, then fails. -/
theorem addSwapBonus_of_full (config : Config) {from_ to_ : Account} {amount until_ : Nat}
    {state : State Account σ} {transferred reserved : σ}
    (full : config.maxSwapBonuses ≤ (getBonusStruct state to_).swapBonuses.length)
    (transfer : currency.transfer from_ to_ amount state.balances = some transferred)
    (reserve : currency.reserve to_ amount transferred = some reserved) :
    addSwapBonus currency config from_ to_ amount until_ state =
      (.error (.module .tooManyBonuses), { state with balances := reserved }) := by
  have refused : tryInsert config.maxSwapBonuses
      (swapBonusIndex (getBonusStruct state to_).swapBonuses until_) (amount, until_)
      (getBonusStruct state to_).swapBonuses = none := by
    simp [tryInsert, Nat.not_lt.mpr full]
  simp [addSwapBonus, addBonus, transfer, reserve, refused]

end AddBonus

section GiveBonuses

variable {Account σ : Type} [LinearOrder Account] (currency : Currency Account σ) (config : Config)

/-- A migrator's bonus to a recipient whose swap bonuses are full: `give_bonuses_` succeeds,
the amount leaves the migrator and is reserved at the recipient, and neither the recipient's
bonuses nor the migrator's allowance record it. -/
theorem giveBonuses_reserves_unrecorded (state : State Account σ) (migrator recipient : Account)
    (allowedMigrations amount offset : Nat) (transferred reserved : σ)
    (isMigrator : state.migrators migrator = some allowedMigrations) (allowance : 0 < allowedMigrations)
    (allowanceFits : allowedMigrations ≤ u16Max) (amountFits : amount ≤ u64Max)
    (sufficient : amount ≤ currency.freeBalance state.balances migrator)
    (canWithdraw : currency.ensureCanWithdraw state.balances migrator amount
      (currency.freeBalance state.balances migrator - amount) = true)
    (full : config.maxSwapBonuses ≤ (getBonusStruct state recipient).swapBonuses.length)
    (transfer : currency.transfer migrator recipient amount state.balances = some transferred)
    (reserve : currency.reserve recipient amount transferred = some reserved) :
    giveBonuses_ currency config migrator [(recipient, amount, offset)] [] state =
      .ok { state with balances := reserved } := by
  have limit : checkAllowedMigrationsLimit state migrator (truncU16 1) = .ok allowedMigrations :=
    checkAllowedMigrationsLimit_eq_ok.mpr ⟨isMigrator, by simp [truncU16]; omega⟩
  have total : totalTransferBalance (fun recip : Account × Nat × Nat => recip.2.1) []
      (totalTransferBalance (fun recip => recip.2.1) [(recipient, amount, offset)] 0) = amount := by
    simp [totalTransferBalance, saturatingAddU64_of_le (a := 0) (by omega : 0 + amount ≤ u64Max)]
  have balance : checkIfMigratorHasSufficientBalance currency state migrator amount = .ok () :=
    (checkIfMigratorHasSufficientBalance_eq_ok currency).mpr ⟨sufficient, canWithdraw⟩
  have refused : addSwapBonus currency config migrator recipient amount (wrappingAdd state.blockNumber offset) state =
      (.error (.module .tooManyBonuses), { state with balances := reserved }) :=
    addSwapBonus_of_full currency config full transfer reserve
  have uncharged : wrappingSubU16 allowedMigrations (wrappingSubU16 (truncU16 1) 1) = allowedMigrations := by
    rw [show wrappingSubU16 (truncU16 1) 1 = 0 by decide, wrappingSubU16_of_le allowanceFits (Nat.zero_le _),
      Nat.sub_zero]
  simp only [giveBonuses_, total, balance, Except.ok_bind]
  simp only [giveEach, refused, Except.bind_eq_ok, Except.pure_eq_ok]
  refine ⟨allowedMigrations, limit, ?_⟩
  simp [Except.isOk, Except.toBool, uncharged, isMigrator]

theorem giveBonuses_reserves_unrecorded_full :
    ∃ transferred reserved : Nat → Nat × Nat,
      plainCurrency.transfer 0 1 5 (fun _ => (10, 0)) = some transferred ∧
      plainCurrency.reserve 1 5 transferred = some reserved ∧ reserved 0 = (5, 0) ∧ reserved 1 = (10, 5) ∧
      giveBonuses_ plainCurrency runtimeConfig 0 [(1, 5, 0)] []
          ⟨fun _ => some 1, fun _ => some ⟨List.replicate 100 (1, 0), []⟩, fun _ => (10, 0), 0⟩ =
        .ok ⟨fun _ => some 1, fun _ => some ⟨List.replicate 100 (1, 0), []⟩, reserved, 0⟩ :=
  ⟨_, _, rfl, rfl, by decide, by decide,
    giveBonuses_reserves_unrecorded plainCurrency runtimeConfig
      ⟨fun _ => some 1, fun _ => some ⟨List.replicate 100 (1, 0), []⟩, fun _ => (10, 0), 0⟩ 0 1 1 5 0 _ _
      rfl (by decide) (by decide) (by decide) (by decide) rfl (by decide) rfl rfl⟩

end GiveBonuses

end DockSubstrate.TokenMigration
