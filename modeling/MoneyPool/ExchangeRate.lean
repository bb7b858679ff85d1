import MoneyPool.Pallet.Shares
import MoneyPool.Panics

/-!
# What a stake does to the value of dtokens

A stake is given dtokens in the proportion of the dtokens on the market to what they are worth in
total, and should add itself to that total. It sets the total to the dtokens on the market and the
stake instead. As long as the two are equal that makes no difference; where interest has been
added to the total, the stake erases it.

`MoneyPool.stake_keeps_value_iff` says that the total and the value of a dtoken come out right
only if the two were equal, and `MoneyPool.stake_worth_iff` when a stake can be redeemed at once
for no more than was paid: if it was given a dtoken for each unit.
-/

namespace MoneyPool

open Pallet Pallet.Exec DepositLoan RuntimeState

variable {AccountId : Type} [DecidableEq AccountId]

variable {s s' : RuntimeState AccountId} {who : AccountId} {assetId : AssetId} {balance : Balance}

/-! ### The counters in numbers -/

/-- **The dtokens of a stake** are shares minted in proportion. -/
theorem toNat_dtokens (hT : s.saving.totalDtoken ≠ 0) (h : s.CanStake who assetId balance) :
    (s.dtokens balance).toNat =
      minted s.saving.marketDtoken.toNat s.saving.totalDtoken.toNat balance.toNat := by
  rw [dtokens, if_neg hT, BitVec.toNat_udiv, BitVec.toNat_mul_of_lt (h.product hT), minted]

/-- The dtokens on the market after a stake. -/
theorem toNat_marketDtoken_staked (hT : s.saving.totalDtoken ≠ 0)
    (h : s.CanStake who assetId balance) :
    (s.staked who assetId balance).saving.marketDtoken.toNat = s.saving.marketDtoken.toNat +
      minted s.saving.marketDtoken.toNat s.saving.totalDtoken.toNat balance.toNat := by
  rw [← toNat_dtokens hT h]
  exact BitVec.toNat_add_of_lt h.market

/-- **The total after a stake** is counted from the dtokens on the market. -/
theorem toNat_totalDtoken_staked (h : s.CanStake who assetId balance) :
    (s.staked who assetId balance).saving.totalDtoken.toNat =
      s.saving.marketDtoken.toNat + balance.toNat :=
  BitVec.toNat_add_of_lt h.total

/-! ### The value of a dtoken -/

/-- **A stake keeps the value of a dtoken**: the total grows by the stake, and what a dtoken is
worth of it does not fall. -/
structure RuntimeState.KeepsValue (s : RuntimeState AccountId) (balance : Balance)
    (s' : RuntimeState AccountId) : Prop where
  total : s'.saving.totalDtoken.toNat = s.saving.totalDtoken.toNat + balance.toNat
  value : s.saving.totalDtoken.toNat * s'.saving.marketDtoken.toNat ≤
    s'.saving.totalDtoken.toNat * s.saving.marketDtoken.toNat

/-- **Staking dilutes nobody** if and only if the dtokens are at par. -/
theorem stake_keeps_value_iff (htotal : s.saving.totalDtoken ≠ 0)
    (h : (createStaking who assetId balance : Prog .release AccountId Unit) s = .ok () s') :
    s.KeepsValue balance s' ↔ s.saving.totalDtoken = s.saving.marketDtoken := by
  obtain ⟨hcan, rfl⟩ := (wp_of_ok h).mp createStaking_spec
  constructor
  · intro hkeeps
    have hgrown := hkeeps.total
    rw [toNat_totalDtoken_staked hcan] at hgrown
    exact BitVec.eq_of_toNat_eq (by omega)
  · intro hpar
    have hdilute := minted_not_dilutes s.saving.marketDtoken.toNat s.saving.totalDtoken.toNat
      balance.toNat
    rw [← toNat_marketDtoken_staked htotal hcan] at hdilute
    have hgrown : (s.staked who assetId balance).saving.totalDtoken.toNat =
        s.saving.totalDtoken.toNat + balance.toNat := by
      rw [toNat_totalDtoken_staked hcan, hpar]
    exact ⟨hgrown, hgrown ▸ hdilute⟩

/-- Account 6 stakes 50 when account 5 has staked 100. -/
theorem stake_keeps_value_example : ∃ s s', next (signedCall 5 (.staking 0 100)) exampleState =
    some s ∧ (createStaking 6 0 50 : Prog .release ℕ Unit) s = .ok () s' ∧ s.KeepsValue 50 s' := by
  obtain ⟨s, hnext, hok, htotal, hpar⟩ := exists_of_any
    (p := fun s => ((createStaking 6 0 50 : Prog .release ℕ Unit) s).okState.isSome = true ∧
      s.saving.totalDtoken ≠ 0 ∧ s.saving.totalDtoken = s.saving.marketDtoken)
    (o := next (signedCall 5 (.staking 0 100)) exampleState) (by decide +kernel)
  obtain ⟨s', hs'⟩ := Option.isSome_iff_exists.mp hok
  have hstake := Outcome.eq_ok_of_okState hs'
  exact ⟨s, s', hnext, hstake, (stake_keeps_value_iff htotal hstake).mpr hpar⟩

/-- The example with 100 dtokens that have earned 10. -/
def earnedState : RuntimeState ℕ :=
  GenesisConfig.build { exampleConfig with
    depositLoan := { exampleConfig.depositLoan with marketDtoken := 100, totalDtoken := 110 } }
    |>.get (by decide +kernel)

/-- A state in which a stake of 11 has been made there. -/
theorem exists_stake_earned : ∃ s',
    (createStaking 5 0 11 : Prog .release ℕ Unit) earnedState = .ok () s' ∧
      s'.saving.marketDtoken = 110 ∧ s'.saving.totalDtoken = 111 := by
  obtain ⟨s', hs', hmarket, htotal⟩ := exists_of_any
    (p := fun s' => s'.saving.marketDtoken = 110 ∧ s'.saving.totalDtoken = 111)
    (o := ((createStaking 5 0 11 : Prog .release ℕ Unit) earnedState).okState) (by decide +kernel)
  exact ⟨s', Outcome.eq_ok_of_okState hs', hmarket, htotal⟩

/-- **A stake erases the interest**: 11 are added to 110, and the total is 111. -/
theorem stake_dilutes : ¬∀ (s s' : RuntimeState ℕ) (who : ℕ) (assetId : AssetId)
    (balance : Balance), s.saving.marketDtoken ≠ 0 → s.saving.totalDtoken ≠ 0 →
    (createStaking who assetId balance : Prog .release ℕ Unit) s = .ok () s' →
      s.KeepsValue balance s' := by
  intro h
  obtain ⟨s', hstake, -, htotal⟩ := exists_stake_earned
  have hgrown := (h earnedState s' 5 0 11 (by decide +kernel) (by decide +kernel) hstake).total
  rw [htotal] at hgrown
  exact absurd hgrown (by decide +kernel)

/-! ### There and back -/

/-- **A stake is worth no more than was paid**: all that an account has can be redeemed without a
division by zero, for at most the stake. -/
structure RuntimeState.WorthAtMost (s' : RuntimeState AccountId) (who : AccountId)
    (balance : Balance) : Prop where
  computed : (makeRedeemAll who : Prog .release AccountId Unit).Completes s'
  bounded : s'.redeemable who ≤ balance

/-- **A stake redeemed at once** brings no more than was paid if and only if it is given as many
dtokens: a dtoken is worth at most a unit, and what it falls short of one adds up to less than a
unit over the stake. -/
theorem stake_worth_iff (hmarket : s.saving.marketDtoken ≠ 0)
    (htotal : s.saving.totalDtoken ≠ 0) (hfresh : s.saving.userDtoken.get who = 0)
    (h : (createStaking who assetId balance : Prog .release AccountId Unit) s = .ok () s') :
    s'.WorthAtMost who balance ↔ s.saving.totalDtoken.toNat ≤ s.saving.marketDtoken.toNat ∧
      balance.toNat * (s.saving.marketDtoken.toNat - s.saving.totalDtoken.toNat) <
        s.saving.totalDtoken.toNat := by
  obtain ⟨hcan, rfl⟩ := (wp_of_ok h).mp createStaking_spec
  have hm := toNat_pos_iff.mp hmarket
  have ht := toNat_pos_iff.mp htotal
  have hb := toNat_pos_iff.mp hcan.ne_zero
  have hentry : (s.staked who assetId balance).saving.userDtoken.get who = s.dtokens balance := by
    simp only [staked, StorageMap.get_insert, if_true, hfresh, zero_add]
  have hpos : (s.staked who assetId balance).saving.totalDtoken ≠ 0 := by
    rw [toNat_pos_iff, toNat_totalDtoken_staked hcan]
    omega
  have hprice : ((s.staked who assetId balance).saving.marketDtoken /
      (s.staked who assetId balance).saving.totalDtoken).toNat =
      (s.saving.marketDtoken.toNat + minted s.saving.marketDtoken.toNat
        s.saving.totalDtoken.toNat balance.toNat) /
        (s.saving.marketDtoken.toNat + balance.toNat) := by
    rw [BitVec.toNat_udiv, toNat_marketDtoken_staked htotal hcan, toNat_totalDtoken_staked hcan]
  have hworth : ((s.staked who assetId balance).redeemable who).toNat =
      worth (s.saving.marketDtoken.toNat + minted s.saving.marketDtoken.toNat
        s.saving.totalDtoken.toNat balance.toNat) (s.saving.marketDtoken.toNat + balance.toNat)
        (minted s.saving.marketDtoken.toNat s.saving.totalDtoken.toNat balance.toNat) := by
    rw [redeemable, BitVec.toNat_udiv, hentry, toNat_dtokens htotal hcan, hprice, worth]
  -- the condition is what the shares are worth, and the code divides by their price
  rw [← minted_eq_self_iff ht hb, ← worth_minted_le_iff hm ht, ← hprice, ← hworth,
    ← Nat.pos_iff_ne_zero, ← toNat_pos_iff, ← BitVec.le_def]
  constructor
  · exact fun hw => ⟨(completes_makeRedeemAll.mp hw.computed).2, hw.bounded⟩
  · exact fun hw => ⟨completes_makeRedeemAll.mpr ⟨hpos, hw.1⟩, hw.2⟩

/-- Account 6 stakes 50 when account 5 has staked 100. -/
theorem stake_worth_example : ∃ s s', next (signedCall 5 (.staking 0 100)) exampleState = some s ∧
    (createStaking 6 0 50 : Prog .release ℕ Unit) s = .ok () s' ∧ s'.WorthAtMost 6 50 := by
  obtain ⟨s, hnext, hok, hmarket, htotal, hfresh, hprice⟩ := exists_of_any
    (p := fun s => ((createStaking 6 0 50 : Prog .release ℕ Unit) s).okState.isSome = true ∧
      s.saving.marketDtoken ≠ 0 ∧ s.saving.totalDtoken ≠ 0 ∧ s.saving.userDtoken.get 6 = 0 ∧
      s.saving.totalDtoken.toNat ≤ s.saving.marketDtoken.toNat ∧
        (50 : Balance).toNat * (s.saving.marketDtoken.toNat - s.saving.totalDtoken.toNat) <
          s.saving.totalDtoken.toNat)
    (o := next (signedCall 5 (.staking 0 100)) exampleState) (by decide +kernel)
  obtain ⟨s', hs'⟩ := Option.isSome_iff_exists.mp hok
  have hstake := Outcome.eq_ok_of_okState hs'
  exact ⟨s, s', hnext, hstake, (stake_worth_iff hmarket htotal hfresh hstake).mpr hprice⟩

/-- **A stake that cannot be redeemed**: 11 are given 10 dtokens, and then there are fewer dtokens
on the market than units in the total, so that the price is zero. -/
theorem stake_worthless : ¬∀ (s s' : RuntimeState ℕ) (who : ℕ) (assetId : AssetId)
    (balance : Balance), s.saving.marketDtoken ≠ 0 → s.saving.totalDtoken ≠ 0 →
    s.saving.userDtoken.get who = 0 →
    (createStaking who assetId balance : Prog .release ℕ Unit) s = .ok () s' →
      s'.WorthAtMost who balance := by
  intro h
  obtain ⟨s', hstake, hmarket, htotal⟩ := exists_stake_earned
  have hworth := h earnedState s' 5 0 11 (by decide +kernel) (by decide +kernel)
    (by decide +kernel) hstake
  have hprice := (completes_makeRedeemAll.mp hworth.computed).2
  rw [hmarket, htotal] at hprice
  exact absurd hprice (by decide)

end MoneyPool
