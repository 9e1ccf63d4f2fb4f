import DockSubstrate.TokenMigration.Runtime

/-!
# Vesting bonuses

What a claim of vesting bonuses should release: a bonus vests in `VestingMilestones` equal
milestones of `VestingDuration / VestingMilestones` blocks each, a share of its total per
milestone passed and the rest at the last (`expectedLocked`).  `unlock_vesting_bonus` computes
that for each bonus in turn (`vestLoop_eq`), and removes the completely vested bonuses by
their indices from the last, which keeps the others in order (`foldl_eraseIdx_filter`).  So a
claim is exact once every bonus has started and a milestone lasts a block or more
(`unlockVestingBonus_eq_ok`).

Neither holds in general.  The pallet only asks both constants to be positive, and with a
duration shorter than the number of milestones a milestone lasts no block: the division by
it panics.  And the milestones passed are counted by a checked subtraction from the next
block, which fails for a bonus that has not started: the claim then fails for every bonus of
the account (`unlockVestingBonus_panics_or_blocked`).
-/

namespace DockSubstrate.TokenMigration

open DockSubstrate.Lib

/-! ## What the milestones release -/

section Milestones

variable (config : Config)

/-- `milestones_passed`: the milestones passed at `nowPlus1` by a bonus that started at `start`. -/
def milestonesPassed (nowPlus1 milestoneDuration start : Nat) : Nat :=
  (nowPlus1 - start) / milestoneDuration

/-- The part of a bonus of `total` that is to stay locked once `passed` milestones have passed:
none after the last milestone, and before it the total less a share per milestone, each share
the total divided by the number of milestones. -/
def expectedLocked (passed total : Nat) : Nat :=
  if config.vestingMilestones ≤ passed then 0 else total - passed * (total / config.vestingMilestones)

/-- The shares of the milestones passed before the last never exceed the total. -/
theorem shares_le_total {passed : Nat} (before : passed < config.vestingMilestones) (total : Nat) :
    passed * (total / config.vestingMilestones) ≤ total :=
  calc passed * (total / config.vestingMilestones)
      ≤ config.vestingMilestones * (total / config.vestingMilestones) := Nat.mul_le_mul_right _ before.le
    _ ≤ total := Nat.mul_div_le total config.vestingMilestones

/-- What a claim at `nowPlus1` releases of a bonus: what it holds locked over what is to stay. -/
def released (nowPlus1 milestoneDuration : Nat) (bonus : Nat × Nat × Nat) : Nat :=
  bonus.2.1 - expectedLocked config (milestonesPassed nowPlus1 milestoneDuration bonus.2.2) bonus.1

/-- Whether a bonus has passed its last milestone at `nowPlus1`. -/
def completelyVested (nowPlus1 milestoneDuration : Nat) (bonus : Nat × Nat × Nat) : Bool :=
  decide (config.vestingMilestones ≤ milestonesPassed nowPlus1 milestoneDuration bonus.2.2)

/-- A bonus after a claim at `nowPlus1`: locked no more than it is to stay, unless it is
completely vested, in which case the claim removes it. -/
def vested (nowPlus1 milestoneDuration : Nat) (bonus : Nat × Nat × Nat) : Nat × Nat × Nat :=
  (bonus.1,
    if completelyVested config nowPlus1 milestoneDuration bonus then bonus.2.1
    else min bonus.2.1 (expectedLocked config (milestonesPassed nowPlus1 milestoneDuration bonus.2.2) bonus.1),
    bonus.2.2)

end Milestones

/-! ## The loop -/

section Loop

variable (config : Config)

/-- One vesting bonus in the loop: what it releases, the part it keeps locked, and whether it is
completely vested, all as the milestones passed make them, when the amount released so far
stays a `u64`. -/
theorem vestOne_eq (i passed : Nat) (bonus : Nat × Nat × Nat) (bonusToUnlock : Nat) (completelyVested : List Nat)
    (fits : bonusToUnlock + (bonus.2.1 - expectedLocked config passed bonus.1) ≤ u64Max) :
    vestOne config i passed bonus (bonusToUnlock, completelyVested) =
      .ok (bonusToUnlock + (bonus.2.1 - expectedLocked config passed bonus.1),
        if config.vestingMilestones ≤ passed then bonus.2.1 else min bonus.2.1 (expectedLocked config passed bonus.1),
        if config.vestingMilestones ≤ passed then completelyVested ++ [i] else completelyVested) := by
  obtain ⟨totalBonus, lockedBonus, start⟩ := bonus
  dsimp only at fits ⊢
  by_cases done : config.vestingMilestones ≤ passed
  · -- after the last milestone everything still locked is released
    have expected : expectedLocked config passed totalBonus = 0 := if_pos done
    rw [expected, Nat.sub_zero] at fits
    have added : checkedAddU64 bonusToUnlock lockedBonus = some (bonusToUnlock + lockedBonus) := if_pos fits
    simp [vestOne, done, expected, added]
  · have shares := shares_le_total config (Nat.lt_of_not_le done) totalBonus
    have expected : expectedLocked config passed totalBonus =
        totalBonus - passed * (totalBonus / config.vestingMilestones) := if_neg done
    have subtracted : checkedSub totalBonus (passed * (totalBonus / config.vestingMilestones)) =
        some (totalBonus - passed * (totalBonus / config.vestingMilestones)) :=
      checkedSub_eq_some_iff.mpr ⟨shares, rfl⟩
    rw [expected] at fits ⊢
    simp only [vestOne, done, if_false, subtracted]
    split_ifs with more
    · have added : checkedAddU64 bonusToUnlock (lockedBonus - (totalBonus - passed * (totalBonus / config.vestingMilestones))) =
          some (bonusToUnlock + (lockedBonus - (totalBonus - passed * (totalBonus / config.vestingMilestones)))) :=
        if_pos fits
      simp [added, Nat.min_eq_right more.le]
    · -- the bonus is already locked no more than it should be
      have less := Nat.le_of_not_lt more
      simp [Nat.sub_eq_zero_of_le less, Nat.min_eq_left less]

/-- With milestones of at least a block and every bonus started, the loop releases what the
milestones make of each bonus, keeps each locked no more than it is to stay, and lists the
completely vested bonuses by index, as long as what it releases stays a `u64`. -/
theorem vestLoop_eq {nowPlus1 milestoneDuration : Nat} (positive : 0 < milestoneDuration) (i : Nat)
    {bonuses : List (Nat × Nat × Nat)} (started : ∀ bonus ∈ bonuses, bonus.2.2 ≤ nowPlus1)
    (bonusToUnlock : Nat) (completed : List Nat)
    (fits : bonusToUnlock + (bonuses.map (released config nowPlus1 milestoneDuration)).sum ≤ u64Max) :
    vestLoop config nowPlus1 milestoneDuration i bonuses (bonusToUnlock, completed) =
      .ok (bonusToUnlock + (bonuses.map (released config nowPlus1 milestoneDuration)).sum,
        bonuses.map (vested config nowPlus1 milestoneDuration),
        completed ++ ((bonuses.zipIdx i).filter fun entry =>
          completelyVested config nowPlus1 milestoneDuration entry.1).map Prod.snd) := by
  induction bonuses generalizing i bonusToUnlock completed with
  | nil => simp [vestLoop]
  | cons bonus rest ih =>
      simp only [List.map_cons, List.sum_cons] at fits
      have elapsed : checkedSub nowPlus1 bonus.2.2 = some (nowPlus1 - bonus.2.2) :=
        checkedSub_eq_some_iff.mpr ⟨started bonus List.mem_cons_self, rfl⟩
      have step := vestOne_eq config i ((nowPlus1 - bonus.2.2) / milestoneDuration) bonus bonusToUnlock completed
        (by unfold released milestonesPassed at fits; omega)
      have restStarted : ∀ later ∈ rest, later.2.2 ≤ nowPlus1 := fun later member =>
        started later (List.mem_cons_of_mem _ member)
      simp only [vestLoop, elapsed, Nat.pos_iff_ne_zero.mp positive, if_false, step]
      -- the rest of the loop starts from what this bonus left
      by_cases done : config.vestingMilestones ≤ (nowPlus1 - bonus.2.2) / milestoneDuration
      · simp only [done, if_true, Except.ok_bind]
        rw [ih (i + 1) restStarted _ _ (by unfold released milestonesPassed at fits ⊢; omega)]
        simp [vested, completelyVested, released, milestonesPassed, done, Nat.add_assoc]
      · simp only [done, if_false, Except.ok_bind]
        rw [ih (i + 1) restStarted _ _ (by unfold released milestonesPassed at fits ⊢; omega)]
        simp [vested, completelyVested, released, milestonesPassed, done, Nat.add_assoc]

/-- On a milestone of no blocks, the loop panics at its first bonus once that one has started. -/
theorem vestLoop_zero_duration {nowPlus1 : Nat} (i : Nat) {first : Nat × Nat × Nat} (rest : List (Nat × Nat × Nat))
    (result : Nat × List Nat) (started : first.2.2 ≤ nowPlus1) :
    vestLoop config nowPlus1 0 i (first :: rest) result = .error .panic := by
  have elapsed : checkedSub nowPlus1 first.2.2 = some (nowPlus1 - first.2.2) :=
    checkedSub_eq_some_iff.mpr ⟨started, rfl⟩
  simp only [vestLoop, elapsed, if_true]
  rfl

/-- The loop fails at a bonus that has not started, whatever the bonuses before it. -/
theorem vestLoop_pending {nowPlus1 milestoneDuration : Nat} (positive : 0 < milestoneDuration) (i : Nat)
    {bonuses : List (Nat × Nat × Nat)} (pending : ∃ bonus ∈ bonuses, nowPlus1 < bonus.2.2) (result : Nat × List Nat) :
    ∃ error, vestLoop config nowPlus1 milestoneDuration i bonuses result = .error (.error error) := by
  induction bonuses generalizing i result with
  | nil => simp at pending
  | cons bonus rest ih =>
      by_cases notStarted : nowPlus1 < bonus.2.2
      · have refused : checkedSub nowPlus1 bonus.2.2 = none := by
          simp [checkedSub, Nat.not_le.mpr notStarted]
        exact ⟨.module .bonusOverflowError, by simp [vestLoop, refused]⟩
      · -- the pending bonus is a later one: the loop gets there or fails before
        obtain ⟨later, member, laterPending⟩ := pending
        have inRest : ∃ bonus ∈ rest, nowPlus1 < bonus.2.2 := by
          rcases List.mem_cons.mp member with rfl | inRest
          · exact absurd laterPending notStarted
          · exact ⟨later, inRest, laterPending⟩
        have elapsed : checkedSub nowPlus1 bonus.2.2 = some (nowPlus1 - bonus.2.2) :=
          checkedSub_eq_some_iff.mpr ⟨Nat.le_of_not_lt notStarted, rfl⟩
        simp only [vestLoop, elapsed, Nat.pos_iff_ne_zero.mp positive, if_false]
        cases vested : vestOne config i ((nowPlus1 - bonus.2.2) / milestoneDuration) bonus result with
        | error failure =>
            cases failure with
            | error error => exact ⟨error, rfl⟩
            | panic => exact absurd vested (vestOne_ne_panic config _ _ _ _)
        | ok step =>
            obtain ⟨bonusToUnlock, lockedBonus, completelyVested⟩ := step
            obtain ⟨error, failed⟩ := ih (i + 1) inRest (bonusToUnlock, completelyVested)
            exact ⟨error, by simp [failed]⟩

end Loop

/-! ## Removing the completely vested bonuses -/

section Removal

variable {α β : Type}

/-- Removing indices past the head leaves the head. -/
theorem foldl_eraseIdx_succ (head : α) (items : List α) (indices : List Nat) :
    (indices.map (· + 1)).foldl List.eraseIdx (head :: items) = head :: indices.foldl List.eraseIdx items := by
  induction indices generalizing items with
  | nil => rfl
  | cons index rest ih => exact ih (items.eraseIdx index)

/-- Removing the indices of the items that satisfy `p`, the last first, so that the others do
not move, keeps the other items in order. -/
theorem foldl_eraseIdx_filter (p : α → Bool) (f : α → β) (items : List α) :
    (((items.zipIdx.filter fun entry => p entry.1).map Prod.snd).reverse.foldl List.eraseIdx (items.map f)) =
      (items.filter fun item => !p item).map f := by
  induction items with
  | nil => rfl
  | cons item rest ih =>
      -- the indices of the rest move up by one behind the head
      have shifted : ((rest.zipIdx 1).filter fun entry => p entry.1).map Prod.snd =
          (((rest.zipIdx).filter fun entry => p entry.1).map Prod.snd).map (· + 1) := by
        rw [List.zipIdx_succ, List.filter_map, List.map_map, List.map_map]
        rfl
      rw [List.zipIdx_cons, Nat.zero_add, List.map_cons]
      by_cases holds : p item
      · rw [List.filter_cons_of_pos (by simpa using holds), List.map_cons, shifted, List.reverse_cons,
          List.foldl_append, ← List.map_reverse, foldl_eraseIdx_succ, ih]
        simp [holds]
      · rw [List.filter_cons_of_neg (by simpa using holds), shifted, ← List.map_reverse, foldl_eraseIdx_succ, ih]
        simp [holds]

end Removal

/-! ## Claims -/

section Claim

variable {Account σ : Type} [LinearOrder Account] (currency : Currency Account σ) (config : Config)

/-- A claim of vesting bonuses when every bonus has started and a milestone lasts a block or
more, and what it releases stays a `u64`: it succeeds when it releases something, unreserves
what the milestones make of each bonus, keeps each bonus locked no more than it is to stay,
and removes those completely vested, keeping the others in order. -/
theorem unlockVestingBonus_eq_ok {who : Account} {state next : State Account σ} {bonus : Bonus}
    (stored : state.bonuses who = some bonus)
    (positive : 0 < config.vestingDuration / config.vestingMilestones)
    (started : ∀ vesting ∈ bonus.vestingBonuses, vesting.2.2 ≤ wrappingAdd state.blockNumber 1)
    (fits : (bonus.vestingBonuses.map (released config (wrappingAdd state.blockNumber 1)
      (config.vestingDuration / config.vestingMilestones))).sum ≤ u64Max) :
    unlockVestingBonus currency config who state = .ok next ↔
      0 < (bonus.vestingBonuses.map (released config (wrappingAdd state.blockNumber 1)
        (config.vestingDuration / config.vestingMilestones))).sum ∧
      next = updateBonus { state with
          balances := currency.unreserve who (bonus.vestingBonuses.map (released config
            (wrappingAdd state.blockNumber 1) (config.vestingDuration / config.vestingMilestones))).sum
            state.balances } who
        { bonus with
          vestingBonuses := (bonus.vestingBonuses.filter fun vesting => !completelyVested config
              (wrappingAdd state.blockNumber 1) (config.vestingDuration / config.vestingMilestones) vesting).map
            (vested config (wrappingAdd state.blockNumber 1) (config.vestingDuration / config.vestingMilestones)) } := by
  by_cases empty : bonus.vestingBonuses = []
  · simp [unlockVestingBonus, stored, empty]
  · have loop := vestLoop_eq config positive 0 started 0 [] (by simpa using fits)
    rw [Nat.zero_add, List.nil_append] at loop
    -- the completely vested bonuses are removed from the last, so the others keep their order
    simp only [unlockVestingBonus, stored, List.isEmpty_iff, empty, if_false, loop, Except.ok_bind,
      foldl_eraseIdx_filter]
    split_ifs with nothing
    · simp [nothing]
    · exact ⟨fun same => ⟨Nat.pos_of_ne_zero nothing, (Except.ok.inj same).symm⟩, fun ⟨_, same⟩ => same ▸ rfl⟩

/-- A claim of vesting bonuses is not what the milestones make of each bonus, added up.  With
a vesting duration shorter than the number of milestones, both positive as the pallet asks, a
milestone lasts no block and the claim panics once the account's first bonus has started.
And a bonus that has not started fails the claim for all the others: the subtraction from
the next block errs. -/
theorem unlockVestingBonus_panics_or_blocked (who : Account) (state : State Account σ) {bonus : Bonus}
    (stored : state.bonuses who = some bonus) :
    (∀ first rest, bonus.vestingBonuses = first :: rest → first.2.2 ≤ wrappingAdd state.blockNumber 1 →
      config.vestingDuration < config.vestingMilestones →
        unlockVestingBonus currency config who state = .error .panic) ∧
    (config.vestingMilestones ≤ config.vestingDuration →
      (∃ pending ∈ bonus.vestingBonuses, wrappingAdd state.blockNumber 1 < pending.2.2) →
        ∃ error, unlockVestingBonus currency config who state = .error (.error error)) := by
  constructor
  · intro first rest listed started short
    have noBlocks : config.vestingDuration / config.vestingMilestones = 0 := Nat.div_eq_of_lt short
    simp only [unlockVestingBonus, stored, listed, List.isEmpty_cons, Bool.false_eq_true, if_false, noBlocks,
      vestLoop_zero_duration config 0 rest (0, []) started]
    rfl
  · intro long pending
    have blocks : 0 < config.vestingDuration / config.vestingMilestones :=
      Nat.div_pos long config.milestones_pos
    obtain ⟨error, failed⟩ := vestLoop_pending config blocks 0 pending (0, [])
    have nonempty : bonus.vestingBonuses ≠ [] := by
      obtain ⟨bonus, member, -⟩ := pending
      exact List.ne_nil_of_mem member
    refine ⟨error, ?_⟩
    simp only [unlockVestingBonus, stored, List.isEmpty_iff, nonempty, if_false, failed]
    rfl

end Claim

/-- The runtime's milestones over a duration of two blocks: both positive, as the pallet asks. -/
def shortConfig : Config :=
  { runtimeConfig with vestingDuration := 2, duration_pos := by decide }

/-- Account `1` with one vesting bonus of `300`, started at block `0`. -/
def oneVestingBonus : State Nat (Nat → Nat × Nat) :=
  ⟨fun _ => none, fun _ => some ⟨[], [(300, 300, 0)]⟩, fun _ => (0, 300), 0⟩

/-- Account `1` at block `6000000`, with a vesting bonus of `300` started at block `0` and one
starting at block `10000000`. -/
def pendingVestingBonus : State Nat (Nat → Nat × Nat) :=
  ⟨fun _ => none, fun _ => some ⟨[], [(300, 300, 0), (300, 300, 10000000)]⟩, fun _ => (0, 600), 6000000⟩

theorem unlockVestingBonus_panics_or_blocked_runtime :
    unlockVestingBonus plainCurrency shortConfig 1 oneVestingBonus = .error .panic ∧
    ∃ error, unlockVestingBonus plainCurrency runtimeConfig 1 pendingVestingBonus = .error (.error error) :=
  ⟨(unlockVestingBonus_panics_or_blocked plainCurrency shortConfig 1 oneVestingBonus rfl).1 _ _ rfl
      (by decide) (by decide),
    (unlockVestingBonus_panics_or_blocked plainCurrency runtimeConfig 1 pendingVestingBonus rfl).2 (by decide)
      ⟨_, List.mem_cons_of_mem _ List.mem_cons_self, by decide⟩⟩

/- By the milestones, the first bonus of `pendingVestingBonus` is completely vested and releases
all of its `300`. -/
example : completelyVested runtimeConfig (wrappingAdd 6000000 1)
      (runtimeConfig.vestingDuration / runtimeConfig.vestingMilestones) (300, 300, 0) = true ∧
    released runtimeConfig (wrappingAdd 6000000 1)
      (runtimeConfig.vestingDuration / runtimeConfig.vestingMilestones) (300, 300, 0) = 300 := by
  decide

end DockSubstrate.TokenMigration
