import Mathlib
import DockSubstrate.TokenMigration.Bonuses

/-!
# Swap bonuses

`add_swap_bonus` keeps an account's swap bonuses in increasing order of the blocks they unlock
at: it inserts a bonus after those that unlock before it, which is where `orderedInsert` puts
it.  `unlock_swap_bonus` then sums the bonuses from the first while they are unlocked, so in
ordered bonuses it claims exactly the unlocked ones and keeps the others
(`unlockSwapBonus_eq_ok`), provided the sum fits in a `u64`.

It does, on every run of the two calls: the amounts of an account's swap bonuses are reserved
at the account, and a reserved balance is a `u64` (`Reserves`, what the pallet relies on of its
currency).  `SwapBonusesKept` is that invariant, with the order of the bonuses and the fact
that `update_bonus` never stores an empty `Bonus`; each call keeps it, and so every run does
(`swapBonuses_claimed_by_prefix`).
-/

namespace DockSubstrate.TokenMigration

open DockSubstrate.Lib

/-! ## The order of swap bonuses -/

theorem insertIdx_takeWhile {α : Type} (p : α → Bool) (element : α) (items : List α) :
    items.insertIdx (items.takeWhile p).length element = items.takeWhile p ++ element :: items.dropWhile p := by
  induction items with
  | nil => rfl
  | cons item rest ih =>
      by_cases holds : p item
      · simp [List.takeWhile_cons_of_pos holds, List.dropWhile_cons_of_pos holds, List.insertIdx_succ_cons, ih]
      · simp [List.takeWhile_cons_of_neg holds, List.dropWhile_cons_of_neg holds, List.insertIdx_zero]

theorem drop_length_takeWhile {α : Type} (p : α → Bool) (items : List α) :
    items.drop (items.takeWhile p).length = items.dropWhile p := by
  calc items.drop (items.takeWhile p).length
      = (items.takeWhile p ++ items.dropWhile p).drop (items.takeWhile p).length := by
        rw [List.takeWhile_append_dropWhile]
    _ = items.dropWhile p := List.drop_left

/-- A swap bonus unlocks no later than another. -/
def UnlocksNoLater (bonus other : Nat × Nat) : Prop := bonus.2 ≤ other.2

instance : DecidableRel UnlocksNoLater := fun bonus other => inferInstanceAs (Decidable (bonus.2 ≤ other.2))

instance : Std.Total UnlocksNoLater := ⟨fun bonus other => Nat.le_total bonus.2 other.2⟩

instance : IsTrans (Nat × Nat) UnlocksNoLater := ⟨fun _ _ _ first second => Nat.le_trans first second⟩

/-- `add_swap_bonus` inserts a bonus after those that unlock before it: where `orderedInsert`
puts it, before the first that unlocks no earlier. -/
theorem insertIdx_swapBonusIndex (bonuses : List (Nat × Nat)) (amount until_ : Nat) :
    bonuses.insertIdx (swapBonusIndex bonuses until_) (amount, until_) =
      bonuses.orderedInsert UnlocksNoLater (amount, until_) := by
  rw [swapBonusIndex, insertIdx_takeWhile, List.orderedInsert_eq_take_drop]
  have same : (fun bonus : Nat × Nat => decide (bonus.2 < until_)) = fun bonus => decide ¬UnlocksNoLater (amount, until_) bonus := by
    funext bonus
    simp [UnlocksNoLater]
  rw [same]


/-- What `add_swap_bonus` inserts, when the vector has room, is the bonus in its place. -/
theorem tryInsert_swapBonus {bound amount until_ : Nat} {bonuses inserted : List (Nat × Nat)}
    (added : tryInsert bound (swapBonusIndex bonuses until_) (amount, until_) bonuses = some inserted) :
    inserted = bonuses.orderedInsert UnlocksNoLater (amount, until_) := by
  unfold tryInsert at added
  split_ifs at added
  cases added
  exact insertIdx_swapBonusIndex bonuses amount until_

/-! ## Claims -/

/-- In bonuses ordered by their blocks, those unlocked at `now` come first. -/
theorem takeWhile_unlocked {bonuses : List (Nat × Nat)} (sorted : bonuses.Pairwise UnlocksNoLater) (now : Nat) :
    bonuses.takeWhile (·.2 ≤ now) = bonuses.filter (·.2 ≤ now) ∧
      bonuses.dropWhile (·.2 ≤ now) = bonuses.filter (now < ·.2) := by
  induction bonuses with
  | nil => exact ⟨rfl, rfl⟩
  | cons bonus rest ih =>
      obtain ⟨later, sortedRest⟩ := List.pairwise_cons.mp sorted
      by_cases unlocked : bonus.2 ≤ now
      · obtain ⟨taken, dropped⟩ := ih sortedRest
        simp [unlocked, taken, dropped]
      · -- every later bonus unlocks after this one, so none is unlocked
        have locked : ∀ other ∈ rest, now < other.2 := fun other member =>
          Nat.lt_of_lt_of_le (Nat.lt_of_not_le unlocked) (later other member)
        have none : rest.filter (·.2 ≤ now) = [] :=
          List.filter_eq_nil_iff.mpr fun other member => by simpa using locked other member
        have all : rest.filter (now < ·.2) = rest :=
          List.filter_eq_self.mpr fun other member => by simpa using locked other member
        simp [unlocked, none, all, Nat.lt_of_not_le unlocked]


/-- The loop of `unlock_swap_bonus` counts and sums the bonuses unlocked at `now` before the
first that is not, when the sum fits in a `u64`. -/
theorem unlockSwapLoop_eq (now : Nat) (bonuses : List (Nat × Nat)) (i bonusToUnlock : Nat)
    (fits : bonusToUnlock + ((bonuses.takeWhile (·.2 ≤ now)).map Prod.fst).sum ≤ u64Max) :
    unlockSwapLoop now bonuses (i, bonusToUnlock) =
      .ok (i + (bonuses.takeWhile (·.2 ≤ now)).length,
        bonusToUnlock + ((bonuses.takeWhile (·.2 ≤ now)).map Prod.fst).sum) := by
  induction bonuses generalizing i bonusToUnlock with
  | nil => rfl
  | cons bonus rest ih =>
      obtain ⟨amount, unlockAt⟩ := bonus
      by_cases unlocked : unlockAt ≤ now
      · rw [List.takeWhile_cons_of_pos (by simpa using unlocked)] at fits ⊢
        simp only [List.map_cons, List.sum_cons, List.length_cons] at fits ⊢
        have added : checkedAddU64 bonusToUnlock amount = some (bonusToUnlock + amount) := by
          simp only [checkedAddU64]
          rw [if_pos (by omega)]
        simp only [unlockSwapLoop, if_pos unlocked, added]
        rw [ih (i + 1) (bonusToUnlock + amount) (by omega)]
        simp only [Except.ok.injEq, Prod.mk.injEq]
        omega
      · simp [unlockSwapLoop, unlocked]


section Unlock

variable {Account σ : Type} [LinearOrder Account] (currency : Currency Account σ)

/-- A claim of swap bonuses from bonuses in order of their blocks, whose unlocked amounts sum
to a `u64`: it succeeds when some bonus is unlocked, unreserves all the unlocked amounts and
keeps the bonuses still locked, in order. -/
theorem unlockSwapBonus_eq_ok {who : Account} {state next : State Account σ}
    (sorted : (getBonusStruct state who).swapBonuses.Pairwise UnlocksNoLater)
    (fits : (((getBonusStruct state who).swapBonuses.filter (·.2 ≤ state.blockNumber)).map Prod.fst).sum ≤ u64Max) :
    unlockSwapBonus currency who state = .ok next ↔
      (∃ bonus ∈ (getBonusStruct state who).swapBonuses, bonus.2 ≤ state.blockNumber) ∧
        next = updateBonus { state with
            balances := currency.unreserve who
              (((getBonusStruct state who).swapBonuses.filter (·.2 ≤ state.blockNumber)).map Prod.fst).sum
              state.balances } who
          { getBonusStruct state who with
            swapBonuses := (getBonusStruct state who).swapBonuses.filter (state.blockNumber < ·.2) } := by
  unfold unlockSwapBonus
  cases stored : state.bonuses who with
  | none => simp [getBonusStruct, stored, Bonus.empty]
  | some bonus =>
      simp only [getBonusStruct, stored, Option.getD_some] at sorted fits ⊢
      obtain ⟨taken, dropped⟩ := takeWhile_unlocked sorted state.blockNumber
      have loop := unlockSwapLoop_eq state.blockNumber bonus.swapBonuses 0 0 (by rw [taken]; omega)
      rw [taken, Nat.zero_add, Nat.zero_add] at loop
      -- the claim goes ahead when some bonus is unlocked, and those are the first ones
      have unlocked : (∃ entry ∈ bonus.swapBonuses, entry.2 ≤ state.blockNumber) ↔
          (bonus.swapBonuses.filter (·.2 ≤ state.blockNumber)).length ≠ 0 := by
        simp [List.length_eq_zero_iff, List.filter_eq_nil_iff]
      by_cases empty : bonus.swapBonuses = []
      · simp [empty]
      · have kept : bonus.swapBonuses.drop (bonus.swapBonuses.filter (·.2 ≤ state.blockNumber)).length =
            bonus.swapBonuses.filter (state.blockNumber < ·.2) := by
          rw [← taken, drop_length_takeWhile, dropped]
        simp only [List.isEmpty_iff, empty, if_false, loop, Except.ok_bind, unlocked, kept]
        split_ifs with none
        · simp [none]
        · exact ⟨fun same => ⟨none, (Except.ok.inj same).symm⟩, fun ⟨_, same⟩ => same ▸ rfl⟩

end Unlock

/-- The amounts of the bonuses unlocked at `now` and of those still locked make up all of them. -/
theorem sum_unlocked_add_locked (now : Nat) (bonuses : List (Nat × Nat)) :
    ((bonuses.filter (·.2 ≤ now)).map Prod.fst).sum + ((bonuses.filter (now < ·.2)).map Prod.fst).sum =
      (bonuses.map Prod.fst).sum := by
  induction bonuses with
  | nil => rfl
  | cons bonus rest ih =>
      by_cases unlocked : bonus.2 ≤ now
      · simp [unlocked, Nat.not_lt.mpr unlocked]
        omega
      · simp [unlocked, Nat.lt_of_not_le unlocked]
        omega

/-! ## Writing a bonus back -/

@[simp]
theorem updateBonus_balances {Account σ : Type} [LinearOrder Account] (state : State Account σ) (acc : Account)
    (bonus : Bonus) : (updateBonus state acc bonus).balances = state.balances := rfl

@[simp]
theorem updateBonus_blockNumber {Account σ : Type} [LinearOrder Account] (state : State Account σ) (acc : Account)
    (bonus : Bonus) : (updateBonus state acc bonus).blockNumber = state.blockNumber := rfl

@[simp]
theorem getBonusStruct_updateBonus {Account σ : Type} [LinearOrder Account] (state : State Account σ)
    (acc : Account) (bonus : Bonus) : getBonusStruct (updateBonus state acc bonus) acc = bonus := by
  unfold getBonusStruct updateBonus
  split_ifs with empty
  · obtain ⟨swapBonuses, vestingBonuses⟩ := bonus
    simp only [Bonus.isEmpty, Bool.and_eq_true, List.isEmpty_iff] at empty
    simp [empty, Bonus.empty]
  · simp


/-! ## Runs of swap bonus calls -/

section Runs

variable {Account σ : Type} [LinearOrder Account] (currency : Currency Account σ) (config : Config)

/-- What the pallet relies on of the `ReservableCurrency`, as the balances pallet provides it:
a reserved balance is a `u64`, which a reservation that would overflow it refuses; a transfer
moves free balance only; `unreserve` takes from the reserved balance all it can of the amount. -/
structure Reserves where
  reservedBalance : σ → Account → Nat
  transfer_reserved : ∀ {from_ to_ amount balances next}, currency.transfer from_ to_ amount balances = some next →
    reservedBalance next = reservedBalance balances
  reserve_reserved : ∀ {who amount balances next}, currency.reserve who amount balances = some next →
    reservedBalance balances who + amount ≤ u64Max ∧
      reservedBalance next = Function.update (reservedBalance balances) who (reservedBalance balances who + amount)
  unreserve_reserved : ∀ who amount balances, reservedBalance (currency.unreserve who amount balances) =
    Function.update (reservedBalance balances) who (reservedBalance balances who - amount)

/-- The calls on the swap bonuses of `account`: a swap bonus given to it, whatever its outcome,
and a claim of its swap bonuses that succeeds (one that fails writes nothing); between calls
the chain moves on to later blocks. -/
inductive SwapCall (account : Account) : State Account σ → State Account σ → Prop
  | add (from_ : Account) (amount until_ : Nat) (state : State Account σ) :
      SwapCall account state (addSwapBonus currency config from_ account amount until_ state).2
  | claim {state next : State Account σ} (claimed : unlockSwapBonus currency account state = .ok next) :
      SwapCall account state next
  | advance (state : State Account σ) {height : Nat} (later : state.blockNumber ≤ height) :
      SwapCall account state { state with blockNumber := height }

variable {currency}

/-- What every run of swap bonus calls keeps of an account: its swap bonuses in order of their
blocks, their amounts reserved at the account, and no entry of `Bonuses` without a bonus. -/
structure SwapBonusesKept (reserves : Reserves currency) (account : Account) (state : State Account σ) : Prop where
  sorted : (getBonusStruct state account).swapBonuses.Pairwise UnlocksNoLater
  reserved : ((getBonusStruct state account).swapBonuses.map Prod.fst).sum ≤
    reserves.reservedBalance state.balances account
  fits : ((getBonusStruct state account).swapBonuses.map Prod.fst).sum ≤ u64Max
  stored : ∀ bonus, state.bonuses account = some bonus → bonus.isEmpty = false

theorem swapBonusesKept_fresh (reserves : Reserves currency) {account : Account} {state : State Account σ}
    (fresh : state.bonuses account = none) : SwapBonusesKept reserves account state where
  sorted := by simp [getBonusStruct, fresh, Bonus.empty]
  reserved := by simp [getBonusStruct, fresh, Bonus.empty]
  fits := by simp [getBonusStruct, fresh, Bonus.empty]
  stored _ stored := by simp [fresh] at stored

theorem updateBonus_stored (state : State Account σ) (acc : Account) (bonus : Bonus) :
    ∀ stored, (updateBonus state acc bonus).bonuses acc = some stored → stored.isEmpty = false := by
  intro stored written
  unfold updateBonus at written
  split_ifs at written with empty
  · simp at written
  · simp only [Function.update_self, Option.some.injEq] at written
    subst written
    simpa using empty

variable {reserves : Reserves currency} {account : Account}

/-- A change of the balances alone that reserves no less at the account keeps the invariant. -/
theorem SwapBonusesKept.of_balances {state : State Account σ} (kept : SwapBonusesKept reserves account state)
    {balances : σ} (more : reserves.reservedBalance state.balances account ≤ reserves.reservedBalance balances account) :
    SwapBonusesKept reserves account { state with balances } where
  sorted := kept.sorted
  reserved := kept.reserved.trans more
  fits := kept.fits
  stored := kept.stored

/-- A swap bonus given to the account is inserted in its place and reserved, or, when the call
fails, leaves the swap bonuses as they were with at least as much reserved. -/
theorem SwapBonusesKept.add {state : State Account σ} (kept : SwapBonusesKept reserves account state)
    (from_ : Account) (amount until_ : Nat) :
    SwapBonusesKept reserves account (addSwapBonus currency config from_ account amount until_ state).2 := by
  unfold addSwapBonus
  rcases addBonus_cases currency _ from_ account amount state with
    ⟨transferred, reserved, bonus, transfer, reserve, recorded, added⟩ | ⟨-, added⟩ |
      ⟨transferred, transfer, -, added⟩ | ⟨transferred, reserved, transfer, reserve, -, added⟩ <;> rw [added]
  · obtain ⟨inserted, tried, rfl⟩ := Option.map_eq_some_iff.mp recorded
    obtain rfl := tryInsert_swapBonus tried
    have counted := ((getBonusStruct state account).swapBonuses.perm_orderedInsert UnlocksNoLater
      (amount, until_)).map Prod.fst |>.sum_eq
    obtain ⟨within, reservedAfter⟩ := reserves.reserve_reserved reserve
    have reservedBefore := reserves.transfer_reserved transfer
    have reservedNow : reserves.reservedBalance reserved account =
        reserves.reservedBalance state.balances account + amount := by
      rw [reservedAfter, reservedBefore, Function.update_self]
    simp only [List.map_cons, List.sum_cons] at counted
    refine ⟨?_, ?_, ?_, updateBonus_stored _ _ _⟩
    · simpa using kept.sorted.orderedInsert _ _
    · simp only [getBonusStruct_updateBonus, updateBonus_balances]
      rw [counted, reservedNow]
      have := kept.reserved
      omega
    · simp only [getBonusStruct_updateBonus]
      rw [counted]
      have := kept.reserved
      rw [reservedBefore] at within
      omega
  · exact kept
  · exact kept.of_balances (congrFun (reserves.transfer_reserved transfer) account).symm.le
  · obtain ⟨-, reservedAfter⟩ := reserves.reserve_reserved reserve
    refine kept.of_balances ?_
    rw [reservedAfter, reserves.transfer_reserved transfer, Function.update_self]
    exact Nat.le_add_right _ _

/-- The bonuses unlocked at the current block are some of the account's, so their amounts sum to
a `u64` too. -/
theorem SwapBonusesKept.unlocked_fits {state : State Account σ} (kept : SwapBonusesKept reserves account state) :
    (((getBonusStruct state account).swapBonuses.filter (·.2 ≤ state.blockNumber)).map Prod.fst).sum ≤ u64Max :=
  calc (((getBonusStruct state account).swapBonuses.filter (·.2 ≤ state.blockNumber)).map Prod.fst).sum
      ≤ (((getBonusStruct state account).swapBonuses.filter (·.2 ≤ state.blockNumber)).map Prod.fst).sum +
          (((getBonusStruct state account).swapBonuses.filter (state.blockNumber < ·.2)).map Prod.fst).sum :=
        Nat.le_add_right _ _
    _ = ((getBonusStruct state account).swapBonuses.map Prod.fst).sum := sum_unlocked_add_locked _ _
    _ ≤ u64Max := kept.fits

/-- An account has no entry of `Bonuses` exactly when both of its lists are empty. -/
theorem SwapBonusesKept.bonuses_eq_none_iff {state : State Account σ} (kept : SwapBonusesKept reserves account state) :
    state.bonuses account = none ↔
      (getBonusStruct state account).swapBonuses = [] ∧ (getBonusStruct state account).vestingBonuses = [] := by
  cases stored : state.bonuses account with
  | none => simp [getBonusStruct, stored, Bonus.empty]
  | some bonus =>
      -- an entry is stored only with a bonus in it
      have nonempty := kept.stored bonus stored
      simp only [Bonus.isEmpty, Bool.and_eq_false_iff, List.isEmpty_eq_false_iff] at nonempty
      simp only [getBonusStruct, stored, Option.getD_some, reduceCtorEq, false_iff, not_and]
      intro noSwap noVesting
      rcases nonempty with swap | vesting
      · exact swap noSwap
      · exact vesting noVesting

/-- A claim leaves the bonuses still locked, in order, and unreserves what the others held. -/
theorem SwapBonusesKept.claim {state next : State Account σ} (kept : SwapBonusesKept reserves account state)
    (claimed : unlockSwapBonus currency account state = .ok next) : SwapBonusesKept reserves account next := by
  obtain ⟨-, rfl⟩ := (unlockSwapBonus_eq_ok currency kept.sorted kept.unlocked_fits).mp claimed
  -- the amounts left are the total less what was unreserved, and so was the reserve
  have split := sum_unlocked_add_locked state.blockNumber (getBonusStruct state account).swapBonuses
  have taken := reserves.unreserve_reserved account
    (((getBonusStruct state account).swapBonuses.filter (·.2 ≤ state.blockNumber)).map Prod.fst).sum state.balances
  refine ⟨?_, ?_, ?_, updateBonus_stored _ _ _⟩
  · simpa using kept.sorted.filter _
  · simp only [getBonusStruct_updateBonus, updateBonus_balances, taken, Function.update_self]
    have := kept.reserved
    omega
  · simp only [getBonusStruct_updateBonus]
    have := kept.fits
    omega

theorem SwapBonusesKept.advance {state : State Account σ} (kept : SwapBonusesKept reserves account state)
    (height : Nat) : SwapBonusesKept reserves account { state with blockNumber := height } where
  sorted := kept.sorted
  reserved := kept.reserved
  fits := kept.fits
  stored := kept.stored

/-- Every run of swap bonus calls keeps the invariant. -/
theorem SwapBonusesKept.run {start state : State Account σ} (kept : SwapBonusesKept reserves account start)
    (run : Relation.ReflTransGen (SwapCall currency config account) start state) :
    SwapBonusesKept reserves account state := by
  induction run with
  | refl => exact kept
  | tail _ step ih =>
      cases step with
      | add from_ amount until_ => exact ih.add config from_ amount until_
      | claim claimed => exact ih.claim claimed
      | advance _ _ => exact ih.advance _

end Runs


/-- Free and reserved balances, each a `u64`, as the balances pallet keeps them: a transfer or a
reservation that would overflow one is refused. -/
def balancesCurrency : Currency Nat (Nat → Nat × Nat) where
  freeBalance balances who := (balances who).1
  transfer from_ to_ amount balances :=
    if amount ≤ (balances from_).1 ∧ (balances to_).1 + amount ≤ u64Max then
      let debited := Function.update balances from_ ((balances from_).1 - amount, (balances from_).2)
      some (Function.update debited to_ ((debited to_).1 + amount, (debited to_).2))
    else none
  reserve who amount balances :=
    if amount ≤ (balances who).1 ∧ (balances who).2 + amount ≤ u64Max then
      some (Function.update balances who ((balances who).1 - amount, (balances who).2 + amount))
    else none
  unreserve who amount balances :=
    Function.update balances who
      ((balances who).1 + min amount (balances who).2, (balances who).2 - min amount (balances who).2)
  ensureCanWithdraw _ _ _ _ := true

/-- The reserved balances of `balancesCurrency` keep the contract the pallet relies on. -/
def balancesReserves : Reserves balancesCurrency where
  reservedBalance balances who := (balances who).2
  transfer_reserved {from_ to_ amount balances next} moved := by
    simp only [balancesCurrency] at moved
    split_ifs at moved
    cases moved
    funext who
    -- the credit and the debit change free balances only
    simp only [Function.update_apply]
    split_ifs <;> simp_all
  reserve_reserved {who amount balances next} reserved := by
    simp only [balancesCurrency] at reserved
    split_ifs at reserved with enough
    cases reserved
    refine ⟨enough.2, ?_⟩
    funext other
    by_cases same : other = who <;> simp [same]
  unreserve_reserved who amount balances := by
    funext other
    by_cases same : other = who
    · subst same
      simp only [balancesCurrency, Function.update_self]
      omega
    · simp [balancesCurrency, same]

/-- Account `1`, with no bonus, given a swap bonus of `5` unlocking at block `3` and then one of
`7` unlocking at block `1`. -/
def twoSwapBonuses : State Nat (Nat → Nat × Nat) :=
  (addSwapBonus balancesCurrency runtimeConfig 0 1 7 1
    (addSwapBonus balancesCurrency runtimeConfig 0 1 5 3
      ⟨fun _ => none, fun _ => none, fun _ => (100, 0), 2⟩).2).2

example : (getBonusStruct twoSwapBonuses 1).swapBonuses = [(7, 1), (5, 3)] := by decide

section Claims

variable {Account σ : Type} [LinearOrder Account] (currency : Currency Account σ) (config : Config)

/-- Over every run of `add_swap_bonus` and `unlock_swap_bonus` calls on an account that had no
bonus, its swap bonuses stay in order of their blocks, and its entry of `Bonuses` is gone
exactly when both of its lists are empty.  A claim at the current block succeeds exactly when
some swap bonus is unlocked; it then unreserves the amounts of all the unlocked bonuses and
keeps the others, in order. -/
theorem swapBonuses_claimed_by_prefix (reserves : Reserves currency) (account : Account) {start state : State Account σ}
    (fresh : start.bonuses account = none)
    (run : Relation.ReflTransGen (SwapCall currency config account) start state) :
    (getBonusStruct state account).swapBonuses.Pairwise (fun bonus later => bonus.2 ≤ later.2) ∧
    (state.bonuses account = none ↔
      (getBonusStruct state account).swapBonuses = [] ∧ (getBonusStruct state account).vestingBonuses = []) ∧
    ((∃ next, unlockSwapBonus currency account state = .ok next) ↔
      ∃ bonus ∈ (getBonusStruct state account).swapBonuses, bonus.2 ≤ state.blockNumber) ∧
    ∀ next, unlockSwapBonus currency account state = .ok next →
      next = updateBonus { state with
          balances := currency.unreserve account
            (((getBonusStruct state account).swapBonuses.filter (·.2 ≤ state.blockNumber)).map Prod.fst).sum
            state.balances } account
        { getBonusStruct state account with
          swapBonuses := (getBonusStruct state account).swapBonuses.filter (state.blockNumber < ·.2) } := by
  have kept := (swapBonusesKept_fresh reserves fresh).run config run
  have claim := fun next => @unlockSwapBonus_eq_ok Account σ _ currency account state next kept.sorted
    kept.unlocked_fits
  refine ⟨kept.sorted, kept.bonuses_eq_none_iff, ⟨?_, ?_⟩, fun next claimed => ((claim next).mp claimed).2⟩
  · rintro ⟨next, claimed⟩
    exact ((claim next).mp claimed).1
  · intro unlocked
    exact ⟨_, (claim _).mpr ⟨unlocked, rfl⟩⟩

end Claims

theorem swapBonuses_claimed_by_prefix_twoBonuses :
    (getBonusStruct twoSwapBonuses 1).swapBonuses.Pairwise (fun bonus later => bonus.2 ≤ later.2) ∧
    (twoSwapBonuses.bonuses 1 = none ↔
      (getBonusStruct twoSwapBonuses 1).swapBonuses = [] ∧ (getBonusStruct twoSwapBonuses 1).vestingBonuses = []) ∧
    ((∃ next, unlockSwapBonus balancesCurrency 1 twoSwapBonuses = .ok next) ↔
      ∃ bonus ∈ (getBonusStruct twoSwapBonuses 1).swapBonuses, bonus.2 ≤ twoSwapBonuses.blockNumber) ∧
    ∀ next, unlockSwapBonus balancesCurrency 1 twoSwapBonuses = .ok next →
      next = updateBonus { twoSwapBonuses with
          balances := balancesCurrency.unreserve 1
            (((getBonusStruct twoSwapBonuses 1).swapBonuses.filter (·.2 ≤ twoSwapBonuses.blockNumber)).map
              Prod.fst).sum twoSwapBonuses.balances } 1
        { getBonusStruct twoSwapBonuses 1 with
          swapBonuses := (getBonusStruct twoSwapBonuses 1).swapBonuses.filter (twoSwapBonuses.blockNumber < ·.2) } :=
  swapBonuses_claimed_by_prefix balancesCurrency runtimeConfig balancesReserves 1 rfl
    ((Relation.ReflTransGen.single (SwapCall.add 0 5 3 _)).tail (SwapCall.add 0 7 1 _))

end DockSubstrate.TokenMigration
