import MoneyPool.GenericAsset.Ledger
import MoneyPool.DepositLoan.Staking

/-!
# What saving does

The final states of a stake and of a redeem, written out:
`MoneyPool.RuntimeState.staked`, `MoneyPool.RuntimeState.redeemedAll` and
`MoneyPool.RuntimeState.redeemed`. Each program has one specification that says
which of them it ends in and under which conditions, and no proof after this file
unfolds the programs.
-/

namespace MoneyPool

open Pallet Pallet.Exec DepositLoan

variable {AccountId : Type} [DecidableEq AccountId] {β : Build}

namespace RuntimeState

variable (s : RuntimeState AccountId) (who : AccountId) (assetId : AssetId) (balance : Balance)

/-! ### Staking -/

/-- The dtokens a stake is given, as the code computes them. -/
def dtokens : Balance :=
  if s.saving.totalDtoken = 0 then balance
  else balance * s.saving.marketDtoken / s.saving.totalDtoken

/-- **The state after a stake.** The value of all dtokens is set to the dtokens on
the market and the stake, whatever it was before. -/
def staked : RuntimeState AccountId :=
  { s with
    assets := s.assets.moved assetId who s.saving.collectionAccountId balance
    saving := { s.saving with
      userDtoken :=
        s.saving.userDtoken.insert who (s.saving.userDtoken.get who + s.dtokens balance)
      marketDtoken := s.saving.marketDtoken + s.dtokens balance
      totalDtoken := s.saving.marketDtoken + balance } }

/-- What a successful stake has checked. -/
structure CanStake : Prop where
  ne_zero : balance ≠ 0
  covered : balance ≤ s.assets.free assetId who
  product : s.saving.totalDtoken ≠ 0 → balance.toNat * s.saving.marketDtoken.toNat < 2 ^ 128
  entry : (s.saving.userDtoken.get who).toNat + (s.dtokens balance).toNat < 2 ^ 128
  market : s.saving.marketDtoken.toNat + (s.dtokens balance).toNat < 2 ^ 128
  total : s.saving.marketDtoken.toNat + balance.toNat < 2 ^ 128

/-! ### Redeeming -/

/-- What an account's dtokens are worth: the quotient of the dtokens on the market
by what they are worth in total is rounded before it divides. -/
def redeemable : Balance :=
  s.saving.userDtoken.get who / (s.saving.marketDtoken / s.saving.totalDtoken)

/-- **The state after everything is paid out.** The account keeps its dtokens. -/
def redeemedAll : RuntimeState AccountId :=
  { s with
    assets := s.assets.moved s.saving.collectionAssetId s.saving.collectionAccountId who
      (s.redeemable who)
    saving := { s.saving with
      marketDtoken := s.saving.marketDtoken - s.saving.userDtoken.get who
      totalDtoken := s.saving.totalDtoken - s.redeemable who } }

/-- What paying out everything checks. -/
structure CanRedeemAll : Prop where
  covered : s.redeemable who ≤ s.cash
  total : s.saving.userDtoken.get who ≤ s.saving.totalDtoken
  market : s.saving.userDtoken.get who ≤ s.saving.marketDtoken

instance : Decidable (s.CanRedeemAll who) :=
  decidable_of_iff (s.redeemable who ≤ s.cash ∧
      s.saving.userDtoken.get who ≤ s.saving.totalDtoken ∧
      s.saving.userDtoken.get who ≤ s.saving.marketDtoken)
    ⟨fun h => ⟨h.1, h.2.1, h.2.2⟩, fun h => ⟨h.covered, h.total, h.market⟩⟩

/-- What a redeem checks, the two divisions included. -/
structure CanRedeem (amount : Balance) : Prop where
  asset : s.saving.collectionAssetId = assetId
  cash : amount ≤ s.cash
  total : s.saving.totalDtoken ≠ 0
  ratio : s.saving.marketDtoken / s.saving.totalDtoken ≠ 0
  worth : amount ≤ s.redeemable who

instance {amount : Balance} : Decidable (s.CanRedeem who assetId amount) :=
  decidable_of_iff (s.saving.collectionAssetId = assetId ∧ amount ≤ s.cash ∧
      s.saving.totalDtoken ≠ 0 ∧ s.saving.marketDtoken / s.saving.totalDtoken ≠ 0 ∧
      amount ≤ s.redeemable who)
    ⟨fun h => ⟨h.1, h.2.1, h.2.2.1, h.2.2.2.1, h.2.2.2.2⟩,
      fun h => ⟨h.asset, h.cash, h.total, h.ratio, h.worth⟩⟩

/-- The state a redeem stakes the rest in: everything has been paid out, or the
attempt to do so has failed and changed nothing. -/
def paidOut : RuntimeState AccountId := if s.CanRedeemAll who then s.redeemedAll who else s

/-- **How a redeem ends**: the rest is staked, or staking it has failed too. -/
inductive Redeemed (amount : Balance) : RuntimeState AccountId → Prop
  | restaked (h : (s.paidOut who).CanStake who assetId (s.redeemable who - amount)) :
      Redeemed amount ((s.paidOut who).staked who assetId (s.redeemable who - amount))
  | kept (h : s.redeemable who - amount = 0 ∨
        ¬s.redeemable who - amount ≤ (s.paidOut who).assets.free assetId who) :
      Redeemed amount (s.paidOut who)

@[simp] theorem paidOut_userDtoken : (s.paidOut who).saving.userDtoken = s.saving.userDtoken := by
  unfold paidOut
  split <;> rfl

@[simp] theorem paidOut_collectionAssetId :
    (s.paidOut who).saving.collectionAssetId = s.saving.collectionAssetId := by
  unfold paidOut
  split <;> rfl

@[simp] theorem paidOut_collectionAccountId :
    (s.paidOut who).saving.collectionAccountId = s.saving.collectionAccountId := by
  unfold paidOut
  split <;> rfl

variable {s who assetId} in
/-- A redeem writes the dtokens and what they are worth, and nothing else of the
pallet. -/
theorem Redeemed.saving_eq {amount : Balance} {s' : RuntimeState AccountId}
    (h : s.Redeemed who assetId amount s') :
    ∃ u m t, s'.saving =
      { s.saving with userDtoken := u, marketDtoken := m, totalDtoken := t } := by
  have hpaid : ∃ m t, (s.paidOut who).saving =
      { s.saving with marketDtoken := m, totalDtoken := t } := by
    unfold paidOut
    split
    · exact ⟨_, _, rfl⟩
    · exact ⟨_, _, rfl⟩
  obtain ⟨m, t, hmt⟩ := hpaid
  cases h with
  | restaked => exact ⟨_, _, _, by rw [staked, hmt]⟩
  | kept => exact ⟨_, _, _, hmt⟩

end RuntimeState

namespace DepositLoan

open RuntimeState

variable {s : RuntimeState AccountId} {who : AccountId} {assetId : AssetId} {balance : Balance}

omit [DecidableEq AccountId] in
/-- The rule of the dtokens given for a stake. -/
@[simp] theorem wp_dtokenFor {marketDtoken totalDtoken : Balance}
    {Q : Balance → RuntimeState AccountId → Prop}
    {E : DispatchError → RuntimeState AccountId → Prop} {P : Prop} :
    wp (dtokenFor balance marketDtoken totalDtoken : Prog β AccountId Balance) Q E P s ↔
      (totalDtoken = 0 → Q balance s) ∧
        (totalDtoken ≠ 0 →
          (¬balance.toNat * marketDtoken.toNat < 2 ^ 128 → P) ∧
            (balance.toNat * marketDtoken.toNat < 2 ^ 128 →
              Q (balance * marketDtoken / totalDtoken) s)) := by
  simp only [dtokenFor, wp_ite, wp_pure, wp_bind, wp_unwrap_checkedMul, wp_div]
  refine and_congr_right fun _ => imp_congr_right fun hT => and_congr_right fun _ => ?_
  simp only [hT, not_true_eq_false, false_imp_iff, true_and, not_false_eq_true, forall_const,
    ne_eq]

/-- The rule of crediting dtokens: an entry that is not there counts as zero. -/
@[simp] theorem wp_creditDtoken {d : Balance} {Q : Unit → RuntimeState AccountId → Prop}
    {E : DispatchError → RuntimeState AccountId → Prop} {P : Prop} :
    wp (creditDtoken who d : Prog β AccountId Unit) Q E P s ↔
      (¬(s.saving.userDtoken.get who).toNat + d.toNat < 2 ^ 128 → P) ∧
        ((s.saving.userDtoken.get who).toNat + d.toNat < 2 ^ 128 →
          Q () (s.withSaving fun t =>
            { t with userDtoken := t.userDtoken.insert who (t.userDtoken.get who + d) })) := by
  simp only [creditDtoken, wp_bind, wp_gets, wp_ite, wp_unwrap_checkedAdd, wp_modify]
  by_cases h : s.saving.userDtoken.containsKey who = true
  · simp only [h, forall_const, not_true_eq_false, false_imp_iff, and_true, withSaving]
  · have hget : s.saving.userDtoken.get who = 0 := StorageMap.get_of_not_containsKey h
    have hzero : (s.saving.userDtoken.get who).toNat + d.toNat = d.toNat := by simp [hget]
    have hsum : s.saving.userDtoken.get who + d = d := by simp [hget]
    simp only [h, hzero, hsum, d.isLt, not_true_eq_false, Bool.false_eq_true, forall_const,
      not_false_eq_true, false_imp_iff, true_and, withSaving]

/-- **A stake** succeeds in the staked state or fails without a trace. -/
theorem createStaking_spec :
    wp (createStaking who assetId balance : Prog β AccountId Unit)
      (fun _ s' => s.CanStake who assetId balance ∧ s' = s.staked who assetId balance)
      (fun _ s' => (balance = 0 ∨ ¬balance ≤ s.assets.free assetId who) ∧ s' = s) True s := by
  simp only [createStaking, wp_bind, wp_gets, wp_ensure, wp_makeTransferWithEvent, wp_dtokenFor,
    wp_creditDtoken, wp_unwrap_checkedAdd, wp_modify, imp_true_iff, true_and, and_true, not_not]
  refine ⟨fun hne => ⟨fun hcov _ => ⟨fun hT => ?_, fun hT hmul => ?_⟩, fun h => Or.inr h⟩,
    fun h => Or.inl h⟩
  · have hd : s.dtokens balance = balance := if_pos hT
    intro hentry hmarket htotal
    refine ⟨⟨hne, hcov, fun h => absurd hT h, ?_, ?_, htotal⟩, ?_⟩
    · rwa [hd]
    · rwa [hd]
    · simp only [staked, hd, withSaving]
  · have hd : s.dtokens balance = balance * s.saving.marketDtoken / s.saving.totalDtoken :=
      if_neg hT
    intro hentry hmarket htotal
    refine ⟨⟨hne, hcov, fun _ => hmul, ?_, ?_, htotal⟩, ?_⟩
    · rwa [hd]
    · rwa [hd]
    · simp only [staked, hd, withSaving]

/-- **Paying out everything** succeeds exactly when its checks do, and otherwise
fails without a trace. -/
theorem makeRedeemAll_spec :
    wp (makeRedeemAll who : Prog β AccountId Unit)
      (fun _ s' => s.CanRedeemAll who ∧ s' = s.redeemedAll who)
      (fun _ s' => ¬s.CanRedeemAll who ∧ s' = s) True s := by
  simp only [makeRedeemAll, wp_bind, wp_gets, wp_ensure, wp_makeTransferWithEvent, wp_div, wp_sub,
    wp_modify, imp_true_iff, true_and, and_true]
  refine fun hT hr => ⟨fun hcov => ⟨fun htot => ⟨fun hmar _ _ => ⟨fun _ _ => ?_, fun h => ?_⟩,
    fun h => ?_⟩, fun h => ?_⟩, fun h => ?_⟩
  · exact ⟨⟨hcov, htot, hmar⟩, rfl⟩
  · exact absurd hcov h
  · exact fun hcan => h hcan.market
  · exact fun hcan => h hcan.total
  · exact fun hcan => h hcan.covered

/-- **A redeem** pays out and stakes the rest, or fails without a trace. It never
asks for more than the account's dtokens are worth. -/
theorem makeRedeem_spec {accountId : AccountId} {amount : Balance} :
    wp (makeRedeem who assetId accountId amount : Prog β AccountId Unit)
      (fun _ s' => s.saving.totalDtoken ≠ 0 ∧
        s.saving.marketDtoken / s.saving.totalDtoken ≠ 0 ∧ amount ≤ s.redeemable who ∧
        s.Redeemed who assetId amount s')
      (fun _ s' => s' = s) True s := by
  simp only [makeRedeem, wp_bind, wp_gets, wp_ensure, wp_div, wp_swallow, wp_sub, imp_true_iff,
    true_and, and_true]
  refine fun hT hr hle => ?_
  -- the two halves of the redeem run in the state `paidOut`
  have hrest : ∀ s₁, s₁ = s.paidOut who →
      wp (createStaking who assetId (s.redeemable who - amount) : Prog β AccountId Unit)
        (fun _ s' => s.saving.totalDtoken ≠ 0 ∧
          s.saving.marketDtoken / s.saving.totalDtoken ≠ 0 ∧ amount ≤ s.redeemable who ∧
          s.Redeemed who assetId amount s')
        (fun _ s' => s.saving.totalDtoken ≠ 0 ∧
          s.saving.marketDtoken / s.saving.totalDtoken ≠ 0 ∧ amount ≤ s.redeemable who ∧
          s.Redeemed who assetId amount s') True s₁ := by
    rintro s₁ rfl
    refine wp_mono createStaking_spec ?_ ?_ id
    · rintro _ s' ⟨hcan, rfl⟩
      exact ⟨hT, hr, hle, .restaked hcan⟩
    · rintro _ s' ⟨hno, rfl⟩
      exact ⟨hT, hr, hle, .kept hno⟩
  refine wp_mono makeRedeemAll_spec ?_ ?_ id
  · rintro _ s₁ ⟨hcan, rfl⟩ _
    exact hrest _ (if_pos hcan).symm
  · rintro _ s₁ ⟨hcan, rfl⟩ _
    exact hrest _ (if_neg hcan).symm

/-! ### The calls -/

variable {origin : Origin AccountId} {amount : Balance}

/-- Staking, for whomever it is done. -/
theorem stakingFor_spec :
    wp (stakingFor who assetId amount : Prog β AccountId Unit)
      (fun _ s' => s.saving.collectionAssetId = assetId ∧ s.CanStake who assetId amount ∧
        s' = s.staked who assetId amount)
      (fun _ s' => s' = s) True s := by
  simp only [stakingFor, wp_bind, wp_gets, wp_ensure, imp_true_iff, and_true]
  refine fun hasset _ => wp_mono createStaking_spec ?_ ?_ id
  · exact fun _ s' h => ⟨hasset, h⟩
  · exact fun _ s' h => h.2

/-- Redeeming, for whomever it is done. -/
theorem redeemFor_spec :
    wp (redeemFor who assetId amount : Prog β AccountId Unit)
      (fun _ s' => s.CanRedeem who assetId amount ∧ s.Redeemed who assetId amount s')
      (fun _ s' => s' = s) True s := by
  simp only [redeemFor, wp_bind, wp_gets, wp_ensure, imp_true_iff, and_true]
  refine fun hcash hasset => wp_mono makeRedeem_spec ?_ (fun _ _ h => h) id
  rintro _ s' ⟨hT, hr, hle, hred⟩
  exact ⟨⟨hasset, hcash, hT, hr, hle⟩, hasset ▸ hred⟩

end DepositLoan

end MoneyPool
