import DockSubstrate.StakingRewards.Pallet

/-!
# Conservation of the emission supply

Every reward of an era is a fraction of a fraction of a fraction of the supply, so it never
exceeds the supply (`emissionReward_le`), and the saturating subtraction that leaves the
remaining supply is exact.  The treasury's part is a fraction of the reward, so the two parts
add up to it.  `eraPayout_conserves` puts the two together for one payout; the other calls do
not touch the supply; and `run_conserves` adds the payouts of a whole run up.
-/

namespace DockSubstrate.StakingRewards

open DockSubstrate.Lib

section Conservation

variable (config : Config)

/-- The reward of an era is at most the supply it is taken from. -/
theorem emissionReward_le (rewardCurve : RewardCurve) (totalStaked totalIssuance eraDurationMillis : Nat)
    (state : State) :
    getEmissionRewardForEraGivenYearly eraDurationMillis
        (getYearlyEmissionReward config rewardCurve totalStaked totalIssuance state.stakingEmissionSupply state) ≤
      state.stakingEmissionSupply :=
  calc getEmissionRewardForEraGivenYearly eraDurationMillis
        (getYearlyEmissionReward config rewardCurve totalStaked totalIssuance state.stakingEmissionSupply state)
      ≤ getYearlyEmissionReward config rewardCurve totalStaked totalIssuance state.stakingEmissionSupply state :=
        PerThing.mul_le _ _
    _ ≤ getMaxYearlyEmission config state state.stakingEmissionSupply := PerThing.mul_le _ _
    _ ≤ state.stakingEmissionSupply := PerThing.mul_le _ _

/-- `emission_reward_for_era` splits the supply into the reward and what remains. -/
theorem emissionRewardForEra_add (rewardCurve : RewardCurve) (totalStaked totalIssuance eraDurationMillis : Nat)
    (state : State) :
    (emissionRewardForEra config rewardCurve totalStaked totalIssuance eraDurationMillis state).1 +
        (emissionRewardForEra config rewardCurve totalStaked totalIssuance eraDurationMillis state).2 =
      state.stakingEmissionSupply := by
  unfold emissionRewardForEra
  cases state.stakingEmissionStatus with
  | false => simp
  | true =>
      have within := emissionReward_le config rewardCurve totalStaked totalIssuance eraDurationMillis state
      simp only [Bool.not_true, Bool.false_eq_true, if_false]
      omega

theorem advanceHighRateRewards_supply (state : State) :
    (advanceHighRateRewards state).stakingEmissionSupply = state.stakingEmissionSupply := by
  unfold advanceHighRateRewards
  split <;> rfl

/-- One payout: the validators' and the treasury's rewards and the supply left add up to the
supply before. -/
theorem eraPayout_conserves (totalStaked totalIssuance eraDurationMillis : Nat) (state : State) :
    (eraPayout config totalStaked totalIssuance eraDurationMillis state).1.1 +
        (eraPayout config totalStaked totalIssuance eraDurationMillis state).1.2 +
        (eraPayout config totalStaked totalIssuance eraDurationMillis state).2.stakingEmissionSupply =
      state.stakingEmissionSupply := by
  have split := emissionRewardForEra_add config config.rewardCurve totalStaked totalIssuance eraDurationMillis state
  unfold eraPayout
  generalize emissionRewardForEra config config.rewardCurve totalStaked totalIssuance eraDurationMillis state =
    era at split
  obtain ⟨emissionReward, remaining⟩ := era
  dsimp only at split ⊢
  split_ifs with nothing
  · simp [advanceHighRateRewards_supply]
  · have treasury := PerThing.mul_le
      (treasuryRewardsPct config { state with stakingEmissionSupply := remaining }) emissionReward
    simp only [advanceHighRateRewards_supply]
    omega

/-- A call pays what it takes off the supply. -/
theorem step_conserves (call : Call) (state : State) :
    (step config call state).1.stakingEmissionSupply + (step config call state).2 = state.stakingEmissionSupply := by
  cases call with
  | setEmissionStatus origin status =>
      cases origin <;> rfl
  | onRuntimeUpgrade =>
      show (onRuntimeUpgrade config state).stakingEmissionSupply + 0 = state.stakingEmissionSupply
      unfold onRuntimeUpgrade
      split <;> rfl
  | eraPayout totalStaked totalIssuance eraDurationMillis =>
      have conserved := eraPayout_conserves config totalStaked totalIssuance eraDurationMillis state
      simp only [step]
      omega

/-- A run pays, in all, what it takes off the supply. -/
theorem run_conserves (calls : List Call) (state : State) :
    (run config calls state).1.stakingEmissionSupply + (run config calls state).2 = state.stakingEmissionSupply := by
  induction calls generalizing state with
  | nil => rfl
  | cons call rest ih =>
      have first := step_conserves config call state
      have after := ih (step config call state).1
      simp only [run]
      omega

/-- Emission supply conservation: the two amounts of a payout add up to what it takes off the
supply, no call raises the supply, and the supply at the start of a run is the supply at its
end plus all the run paid. -/
theorem emissionSupply_conserved :
    (∀ (state : State) (totalStaked totalIssuance eraDurationMillis : Nat),
      (eraPayout config totalStaked totalIssuance eraDurationMillis state).1.1 +
          (eraPayout config totalStaked totalIssuance eraDurationMillis state).1.2 =
        state.stakingEmissionSupply -
          (eraPayout config totalStaked totalIssuance eraDurationMillis state).2.stakingEmissionSupply ∧
      (eraPayout config totalStaked totalIssuance eraDurationMillis state).2.stakingEmissionSupply ≤
        state.stakingEmissionSupply) ∧
    (∀ (call : Call) (state : State), (step config call state).1.stakingEmissionSupply ≤ state.stakingEmissionSupply) ∧
    (∀ (calls : List Call) (state : State),
      state.stakingEmissionSupply = (run config calls state).1.stakingEmissionSupply + (run config calls state).2) := by
  refine ⟨fun state totalStaked totalIssuance eraDurationMillis => ?_, fun call state => ?_,
    fun calls state => (run_conserves config calls state).symm⟩
  · have conserved := eraPayout_conserves config totalStaked totalIssuance eraDurationMillis state
    omega
  · have conserved := step_conserves config call state
    omega

theorem emissionSupply_conserved_afterUpgrade :
    (run (runtimeConfig ⟨⟨53200000, by decide⟩, fun _ totalIssuance => totalIssuance / 20⟩)
        [.onRuntimeUpgrade, .setEmissionStatus .root true, .eraPayout 400 1000 43200000, .eraPayout 400 1000 43200000]
        ⟨1000000000000, false, .none⟩).2 = 968370533 ∧
    State.stakingEmissionSupply ⟨1000000000000, false, .none⟩ =
      (run (runtimeConfig ⟨⟨53200000, by decide⟩, fun _ totalIssuance => totalIssuance / 20⟩)
          [.onRuntimeUpgrade, .setEmissionStatus .root true, .eraPayout 400 1000 43200000, .eraPayout 400 1000 43200000]
          ⟨1000000000000, false, .none⟩).1.stakingEmissionSupply +
        (run (runtimeConfig ⟨⟨53200000, by decide⟩, fun _ totalIssuance => totalIssuance / 20⟩)
          [.onRuntimeUpgrade, .setEmissionStatus .root true, .eraPayout 400 1000 43200000, .eraPayout 400 1000 43200000]
          ⟨1000000000000, false, .none⟩).2 :=
  ⟨by decide, (emissionSupply_conserved _).2.2 _ _⟩

end Conservation

end DockSubstrate.StakingRewards
