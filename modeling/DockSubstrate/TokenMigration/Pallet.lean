import DockSubstrate.Lib.MachineInt
import DockSubstrate.Lib.SortedMap

/-!
# Token migration

The token migration pallet (`pallets/token-migration`): `Migrators` maps a migrator to the
number of migrations it may still make, a `u16`, and `Bonuses` maps an account to the swap
and vesting bonuses it has been given.  A migrator transfers tokens to recipients
(`migrate`) and gives bonuses (`give_bonuses`), which are transferred to the recipient and
reserved there until they unlock; the root adds, removes, expands and contracts migrators,
and anyone claims the unlocked bonuses of an account.

`Currency` is the runtime's balances pallet as this pallet calls it, over the balances'
state: each of its calls changes nothing when it fails.  A call of the pallet that fails
writes nothing, as its dispatch runs in a storage layer; but inside `give_bonuses_`, a failed
`add_swap_bonus` or `add_vesting_bonus` keeps what it did before it failed, since
`give_bonuses_` only counts the failure and succeeds.  A call that unwraps a missing value
panics (`Failure.panic`), which no storage layer catches.
-/

namespace DockSubstrate.TokenMigration

open DockSubstrate.Lib

/-- `token_migration::Error`. -/
inductive Error where
  | migratorAlreadyPresent
  | unknownMigrator
  | exceededMigrations
  | cannotExpandMigrator
  | cannotContractMigrator
  | insufficientBalance
  | bonusOverflowError
  | noBonus
  | noSwapBonus
  | cannotClaimSwapBonusYet
  | vestingNotStartedYet
  | noVestingBonus
  | cannotClaimVestingBonusYet
  | tooManyBonuses
  deriving DecidableEq, Repr

/-- `pallet_utility::Error`, of a batch of more calls than the limit. -/
inductive UtilityError where
  | tooManyCalls
  deriving DecidableEq, Repr

/-- Why a call fails: the pallet's error, an error of `pallet_utility` when the call is a
batch, an error of the currency, or an origin of the wrong kind (`BadOrigin`). -/
inductive DispatchError where
  | module (error : Error)
  | utility (error : UtilityError)
  | currency
  | badOrigin
  deriving DecidableEq, Repr

/-- How a dispatch that does not succeed ends: with an error, whose writes are discarded, or
with a panic, which aborts the extrinsic. -/
inductive Failure where
  | error (error : DispatchError)
  | panic
  deriving DecidableEq, Repr

/-- The `ReservableCurrency` of the pallet's `Config` over the state `σ` of the balances: the
calls the pallet makes, a failed one changing nothing. -/
structure Currency (Account σ : Type) where
  freeBalance : σ → Account → Nat
  /-- `transfer(from, to, amount, AllowDeath)`. -/
  transfer : Account → Account → Nat → σ → Option σ
  reserve : Account → Nat → σ → Option σ
  /-- `unreserve`, which unreserves what it can. -/
  unreserve : Account → Nat → σ → σ
  /-- `ensure_can_withdraw(who, amount, WithdrawReasons::TRANSFER, new_free)`. -/
  ensureCanWithdraw : σ → Account → Nat → Nat → Bool

/-- `Bonus`: the swap bonuses, each an amount and the block it unlocks at, kept in increasing
order of blocks; and the vesting bonuses, each a total, the part still locked and the block
vesting starts at.  Both are `WeakBoundedVec`s, which may hold more than their bound: only an
insertion checks it. -/
structure Bonus where
  swapBonuses : List (Nat × Nat)
  vestingBonuses : List (Nat × Nat × Nat)
  deriving DecidableEq, Repr

namespace Bonus

/-- `Bonus::default`. -/
def empty : Bonus := ⟨[], []⟩

/-- `Bonus::is_empty`. -/
def isEmpty (bonus : Bonus) : Bool :=
  bonus.swapBonuses.isEmpty && bonus.vestingBonuses.isEmpty

end Bonus

/-- The constants of the pallet's `Config`, with the two bounds the runtime asserts for them. -/
structure Config where
  /-- `VestingMilestones`, a `u8`. -/
  vestingMilestones : Nat
  /-- `VestingDuration` in blocks, a `u32`. -/
  vestingDuration : Nat
  maxSwapBonuses : Nat
  maxVestingBonuses : Nat
  milestones_pos : 0 < vestingMilestones
  duration_pos : 0 < vestingDuration

/-- The constants of the runtime. -/
def runtimeConfig : Config where
  vestingMilestones := 3
  vestingDuration := 5270400
  maxSwapBonuses := 100
  maxVestingBonuses := 100
  milestones_pos := by decide
  duration_pos := by decide

/-- `Migrators` (each allowance a `u16`), `Bonuses`, the balances, and the current block. -/
structure State (Account σ : Type) where
  migrators : Account → Option Nat
  bonuses : Account → Option Bonus
  balances : σ
  blockNumber : Nat

/-- The origin of a call. -/
inductive Origin (Account : Type) where
  | root
  | signed (who : Account)
  deriving DecidableEq, Repr

section Functions

variable {Account σ : Type} [LinearOrder Account] (currency : Currency Account σ) (config : Config)

/-- `ensure_signed`. -/
def ensureSigned : Origin Account → Except Failure Account
  | .signed who => pure who
  | .root => throw (.error .badOrigin)

/-- `ensure_root`. -/
def ensureRoot : Origin Account → Except Failure Unit
  | .root => pure ()
  | .signed _ => throw (.error .badOrigin)

/-! ## Migrations -/

/-- `check_allowed_migrations_limit`: the allowance of the migrator, unwrapped, which panics
when the account is not a migrator. -/
def checkAllowedMigrationsLimit (state : State Account σ) (migrator : Account) (migCount : Nat) :
    Except Failure Nat := do
  let some allowedMigrations := state.migrators migrator | throw .panic
  if migCount ≤ allowedMigrations then pure allowedMigrations
  else throw (.error (.module .exceededMigrations))

/-- `check_if_migrator_has_sufficient_balance`. -/
def checkIfMigratorHasSufficientBalance (state : State Account σ) (migrator : Account) (toTransfer : Nat) :
    Except Failure Unit := do
  let some newFree := checkedSub (currency.freeBalance state.balances migrator) toTransfer
    | throw (.error (.module .insufficientBalance))
  if currency.ensureCanWithdraw state.balances migrator toTransfer newFree then pure ()
  else throw (.error .currency)

/-- The sum of the amounts, each added with `saturating_add`. -/
def totalTransferBalance {α : Type} (amount : α → Nat) (items : List α) (init : Nat) : Nat :=
  items.foldl (fun acc item => saturatingAddU64 acc (amount item)) init

/-- The transfers of `migrate_`, in the recipients' order: each failed transfer takes one off
the count. -/
def transferAll (migrator : Account) : List (Account × Nat) → σ × Nat → σ × Nat
  | [], result => result
  | (recip, balance) :: rest, (balances, migCount) =>
      match currency.transfer migrator recip balance balances with
      | some balances => transferAll migrator rest (balances, migCount)
      | none => transferAll migrator rest (balances, wrappingSubU16 migCount 1)

/-- `migrate_`: the count is the number of recipients as a `u16`, and the allowance left is
the allowance minus the transfers that succeeded. -/
def migrate_ (migrator : Account) (recipients : SortedMap Account Nat) (state : State Account σ) :
    Except Failure (State Account σ) := do
  let migCount := truncU16 recipients.size
  let allowedMigrations ← checkAllowedMigrationsLimit state migrator migCount
  checkIfMigratorHasSufficientBalance currency state migrator
    (totalTransferBalance Prod.snd recipients.entries 0)
  let (balances, migCount) := transferAll currency migrator recipients.entries (state.balances, migCount)
  pure { state with
    balances, migrators := Function.update state.migrators migrator (some (wrappingSubU16 allowedMigrations migCount)) }

/-! ## Bonuses -/

/-- `get_bonus_struct`. -/
def getBonusStruct (state : State Account σ) (acc : Account) : Bonus :=
  (state.bonuses acc).getD .empty

/-- `update_bonus`: an empty bonus removes the account's entry. -/
def updateBonus (state : State Account σ) (acc : Account) (bonus : Bonus) : State Account σ :=
  { state with bonuses := Function.update state.bonuses acc (if bonus.isEmpty then none else some bonus) }

/-- `WeakBoundedVec::try_insert`, refused at the bound or over it. -/
def tryInsert {α : Type} (bound index : Nat) (element : α) (items : List α) : Option (List α) :=
  if items.length < bound then some (items.insertIdx index element) else none

/-- `WeakBoundedVec::try_push`, refused at the bound or over it. -/
def tryPush {α : Type} (bound : Nat) (element : α) (items : List α) : Option (List α) :=
  if items.length < bound then some (items ++ [element]) else none

/-- What `add_swap_bonus` and `add_vesting_bonus` share: the amount is transferred to the
recipient and reserved there, then `record` adds the bonus to the recipient's `Bonus`.  What
succeeded stays done when a later step fails. -/
def addBonus (record : Bonus → Option Bonus) (from_ to_ : Account) (amount : Nat) (state : State Account σ) :
    Except DispatchError Unit × State Account σ :=
  match currency.transfer from_ to_ amount state.balances with
  | none => (throw .currency, state)
  | some balances =>
      match currency.reserve to_ amount balances with
      | none => (throw .currency, { state with balances })
      | some balances =>
          match record (getBonusStruct state to_) with
          | none => (throw (.module .tooManyBonuses), { state with balances })
          | some bonus => (pure (), updateBonus { state with balances } to_ bonus)

/-- Where `add_swap_bonus` inserts a bonus unlocking at `until`: after the bonuses that unlock
before it. -/
def swapBonusIndex (bonuses : List (Nat × Nat)) (until_ : Nat) : Nat :=
  (bonuses.takeWhile fun bonus => bonus.2 < until_).length

/-- `add_swap_bonus`. -/
def addSwapBonus (from_ to_ : Account) (amount until_ : Nat) (state : State Account σ) :
    Except DispatchError Unit × State Account σ :=
  addBonus currency (fun bonus =>
      (tryInsert config.maxSwapBonuses (swapBonusIndex bonus.swapBonuses until_) (amount, until_)
        bonus.swapBonuses).map fun swapBonuses => { bonus with swapBonuses })
    from_ to_ amount state

/-- `add_vesting_bonus`. -/
def addVestingBonus (from_ to_ : Account) (amount start : Nat) (state : State Account σ) :
    Except DispatchError Unit × State Account σ :=
  addBonus currency (fun bonus =>
      (tryPush config.maxVestingBonuses (amount, amount, start) bonus.vestingBonuses).map
        fun vestingBonuses => { bonus with vestingBonuses })
    from_ to_ amount state

/-- A loop of `give_bonuses_`: each recipient is given its bonus at block `now + offset`, and
each failure, whatever it left done, takes one off the count. -/
def giveEach (add : Account → Nat → Nat → State Account σ → Except DispatchError Unit × State Account σ)
    (now : Nat) : List (Account × Nat × Nat) → State Account σ × Nat → State Account σ × Nat
  | [], result => result
  | (accId, amount, offset) :: rest, (state, migCount) =>
      let (result, state) := add accId amount (wrappingAdd now offset) state
      giveEach add now rest (state, if result.isOk then migCount else wrappingSubU16 migCount 1)

/-- `give_bonuses_`. -/
def giveBonuses_ (migrator : Account) (swapBonusRecips vestingBonusRecips : List (Account × Nat × Nat))
    (state : State Account σ) : Except Failure (State Account σ) := do
  let migCount := truncU16 (swapBonusRecips.length + vestingBonusRecips.length)
  let allowedMigrations ← checkAllowedMigrationsLimit state migrator migCount
  let total := totalTransferBalance (fun recip => recip.2.1) vestingBonusRecips
    (totalTransferBalance (fun recip => recip.2.1) swapBonusRecips 0)
  checkIfMigratorHasSufficientBalance currency state migrator total
  let now := state.blockNumber
  let (state, migCount) := giveEach (addSwapBonus currency config migrator) now swapBonusRecips (state, migCount)
  let (state, migCount) := giveEach (addVestingBonus currency config migrator) now vestingBonusRecips (state, migCount)
  pure { state with migrators := Function.update state.migrators migrator (some (wrappingSubU16 allowedMigrations migCount)) }

/-! ## Claims -/

/-- The loop of `unlock_swap_bonus`: the bonuses unlocked at `now`, a prefix of them, counted
and summed with `checked_add`. -/
def unlockSwapLoop (now : Nat) : List (Nat × Nat) → Nat × Nat → Except Failure (Nat × Nat)
  | [], result => pure result
  | (amount, unlockAt) :: rest, (i, bonusToUnlock) =>
      if unlockAt ≤ now then
        match checkedAddU64 bonusToUnlock amount with
        | some bonusToUnlock => unlockSwapLoop now rest (i + 1, bonusToUnlock)
        | none => throw (.error (.module .bonusOverflowError))
      else pure (i, bonusToUnlock)

/-- `unlock_swap_bonus`: every write comes after the last check, so a failure writes nothing. -/
def unlockSwapBonus (who : Account) (state : State Account σ) : Except Failure (State Account σ) := do
  let some bonus := state.bonuses who | throw (.error (.module .noBonus))
  if bonus.swapBonuses.isEmpty then throw (.error (.module .noSwapBonus))
  let (i, bonusToUnlock) ← unlockSwapLoop state.blockNumber bonus.swapBonuses (0, 0)
  if i = 0 then throw (.error (.module .cannotClaimSwapBonusYet))
  let state := { state with balances := currency.unreserve who bonusToUnlock state.balances }
  pure (updateBonus state who { bonus with swapBonuses := bonus.swapBonuses.drop i })

/-- One vesting bonus in the loop of `unlock_vesting_bonus`, at index `i`, with
`milestones_passed` milestones passed: what it adds to the unlocked amount, its new locked
part, and whether it is completely vested.  `milestones_passed * bonus_per_milestone` stays
below the total, so it does not overflow. -/
def vestOne (i milestonesPassed : Nat) (bonus : Nat × Nat × Nat) (result : Nat × List Nat) :
    Except Failure (Nat × Nat × List Nat) :=
  let (totalBonus, lockedBonus, _) := bonus
  let (bonusToUnlock, completelyVested) := result
  if config.vestingMilestones ≤ milestonesPassed then
    match checkedAddU64 bonusToUnlock lockedBonus with
    | some bonusToUnlock => pure (bonusToUnlock, lockedBonus, completelyVested ++ [i])
    | none => throw (.error (.module .bonusOverflowError))
  else
    let bonusPerMilestone := totalBonus / config.vestingMilestones
    match checkedSub totalBonus (milestonesPassed * bonusPerMilestone) with
    | none => throw (.error (.module .bonusOverflowError))
    | some expectedLocked =>
        if expectedLocked < lockedBonus then
          match checkedAddU64 bonusToUnlock (lockedBonus - expectedLocked) with
          | some bonusToUnlock => pure (bonusToUnlock, expectedLocked, completelyVested)
          | none => throw (.error (.module .bonusOverflowError))
        else pure (bonusToUnlock, lockedBonus, completelyVested)

/-- The loop of `unlock_vesting_bonus` from index `i`: the amount unlocked, the bonuses with
their new locked parts, and the indices of those completely vested.  The division by the
duration of a milestone panics when it is zero. -/
def vestLoop (nowPlus1 milestoneDuration : Nat) :
    Nat → List (Nat × Nat × Nat) → Nat × List Nat → Except Failure (Nat × List (Nat × Nat × Nat) × List Nat)
  | _, [], (bonusToUnlock, completelyVested) => pure (bonusToUnlock, [], completelyVested)
  | i, bonus :: rest, result => do
      let some elapsed := checkedSub nowPlus1 bonus.2.2 | throw (.error (.module .bonusOverflowError))
      if milestoneDuration = 0 then throw .panic
      let (bonusToUnlock, lockedBonus, completelyVested) ← vestOne config i (elapsed / milestoneDuration) bonus result
      let (bonusToUnlock, rest, completelyVested) ←
        vestLoop nowPlus1 milestoneDuration (i + 1) rest (bonusToUnlock, completelyVested)
      pure (bonusToUnlock, (bonus.1, lockedBonus, bonus.2.2) :: rest, completelyVested)

/-- `unlock_vesting_bonus`: every write comes after the last check, so a failure writes
nothing. -/
def unlockVestingBonus (who : Account) (state : State Account σ) : Except Failure (State Account σ) := do
  let some bonus := state.bonuses who | throw (.error (.module .noBonus))
  if bonus.vestingBonuses.isEmpty then throw (.error (.module .noVestingBonus))
  let nowPlus1 := wrappingAdd state.blockNumber 1
  let milestoneDuration := config.vestingDuration / config.vestingMilestones
  let (bonusToUnlock, vestingBonuses, completelyVested) ←
    vestLoop config nowPlus1 milestoneDuration 0 bonus.vestingBonuses (0, [])
  if bonusToUnlock = 0 then throw (.error (.module .cannotClaimVestingBonusYet))
  let vestingBonuses := completelyVested.reverse.foldl List.eraseIdx vestingBonuses
  let state := { state with balances := currency.unreserve who bonusToUnlock state.balances }
  pure (updateBonus state who { bonus with vestingBonuses })

/-- A call whose result is kept as a value, as `let result = f(..)` does: on an error nothing
is written and the call goes on; a panic still aborts. -/
def attempt (run : State Account σ → Except Failure (State Account σ)) (state : State Account σ) :
    Except Failure (Bool × State Account σ) :=
  match run state with
  | .ok next => pure (true, next)
  | .error (.error _) => pure (false, state)
  | .error .panic => throw .panic

/-- `unlock_bonus`: the swap bonus, then the vesting bonus; it fails when neither was claimed. -/
def unlockBonus (who : Account) (state : State Account σ) : Except Failure (State Account σ) := do
  let (swapClaimed, state) ← attempt (unlockSwapBonus currency who) state
  let (vestingClaimed, state) ← attempt (unlockVestingBonus currency config who) state
  if swapClaimed || vestingClaimed then pure state else throw (.error (.module .noBonus))

/-! ## Migrators -/

/-- `expand_migrator`. -/
def expandMigrator (migrator : Account) (increaseMigrationsBy : Nat) (state : State Account σ) :
    Except Failure (State Account σ) :=
  match state.migrators migrator with
  | some currentMigrations =>
      match checkedAddU16 currentMigrations increaseMigrationsBy with
      | some newMigrations => pure { state with migrators := Function.update state.migrators migrator (some newMigrations) }
      | none => throw (.error (.module .cannotExpandMigrator))
  | none => throw (.error (.module .unknownMigrator))

/-- `contract_migrator`. -/
def contractMigrator (migrator : Account) (decreaseMigrationsBy : Nat) (state : State Account σ) :
    Except Failure (State Account σ) := do
  let some currentMigrations := state.migrators migrator | throw (.error (.module .unknownMigrator))
  let some newMigrations := checkedSub currentMigrations decreaseMigrationsBy
    | throw (.error (.module .cannotContractMigrator))
  pure { state with migrators := Function.update state.migrators migrator (some newMigrations) }

/-- `add_migrator`. -/
def addMigrator (migrator : Account) (allowedMigrations : Nat) (state : State Account σ) :
    Except Failure (State Account σ) :=
  if (state.migrators migrator).isSome then throw (.error (.module .migratorAlreadyPresent))
  else pure { state with migrators := Function.update state.migrators migrator (some allowedMigrations) }

/-- `remove_migrator`. -/
def removeMigrator (migrator : Account) (state : State Account σ) : Except Failure (State Account σ) :=
  if (state.migrators migrator).isSome then pure { state with migrators := Function.update state.migrators migrator none }
  else throw (.error (.module .unknownMigrator))

end Functions

/-! ## Calls -/

/-- The calls of the pallet; an account given as a target is the looked-up account. -/
inductive Call (Account : Type) [LinearOrder Account] where
  | migrate (recipients : SortedMap Account Nat)
  | expandMigrator (migrator : Account) (increaseMigrationsBy : Nat)
  | contractMigrator (migrator : Account) (decreaseMigrationsBy : Nat)
  | addMigrator (migrator : Account) (allowedMigrations : Nat)
  | removeMigrator (migrator : Account)
  | giveBonuses (swapBonusRecips vestingBonusRecips : List (Account × Nat × Nat))
  | claimBonus
  | claimBonusForOther (target : Account)
  | claimSwapBonus
  | claimSwapBonusForOther (target : Account)
  | claimVestingBonus
  | claimVestingBonusForOther (target : Account)

section Dispatch

variable {Account σ : Type} [LinearOrder Account] (currency : Currency Account σ) (config : Config)

/-- A call of the pallet from an origin. -/
def dispatch (origin : Origin Account) : Call Account → State Account σ → Except Failure (State Account σ)
  | .migrate recipients, state => do
      let migrator ← ensureSigned origin
      migrate_ currency migrator recipients state
  | .expandMigrator migrator increaseMigrationsBy, state => do
      ensureRoot origin
      expandMigrator migrator increaseMigrationsBy state
  | .contractMigrator migrator decreaseMigrationsBy, state => do
      ensureRoot origin
      contractMigrator migrator decreaseMigrationsBy state
  | .addMigrator migrator allowedMigrations, state => do
      ensureRoot origin
      addMigrator migrator allowedMigrations state
  | .removeMigrator migrator, state => do
      ensureRoot origin
      removeMigrator migrator state
  | .giveBonuses swapBonusRecips vestingBonusRecips, state => do
      let migrator ← ensureSigned origin
      giveBonuses_ currency config migrator swapBonusRecips vestingBonusRecips state
  | .claimBonus, state => do
      let who ← ensureSigned origin
      unlockBonus currency config who state
  | .claimBonusForOther target, state => do
      let _ ← ensureSigned origin
      unlockBonus currency config target state
  | .claimSwapBonus, state => do
      let who ← ensureSigned origin
      unlockSwapBonus currency who state
  | .claimSwapBonusForOther target, state => do
      let _ ← ensureSigned origin
      unlockSwapBonus currency target state
  | .claimVestingBonus, state => do
      let who ← ensureSigned origin
      unlockVestingBonus currency config who state
  | .claimVestingBonusForOther target, state => do
      let _ ← ensureSigned origin
      unlockVestingBonus currency config target state

end Dispatch

/-- Free and reserved balances, with no locks and no existential deposit: the plainest
`ReservableCurrency`, to run the pallet on. -/
def plainCurrency : Currency Nat (Nat → Nat × Nat) where
  freeBalance balances who := (balances who).1
  transfer from_ to_ amount balances :=
    if amount ≤ (balances from_).1 then
      let debited := Function.update balances from_ ((balances from_).1 - amount, (balances from_).2)
      some (Function.update debited to_ ((debited to_).1 + amount, (debited to_).2))
    else none
  reserve who amount balances :=
    if amount ≤ (balances who).1 then
      some (Function.update balances who ((balances who).1 - amount, (balances who).2 + amount))
    else none
  unreserve who amount balances :=
    Function.update balances who
      ((balances who).1 + min amount (balances who).2, (balances who).2 - min amount (balances who).2)
  ensureCanWithdraw _ _ _ _ := true

end DockSubstrate.TokenMigration
