import MoneyPool.Effect

/-!
# What backs the deposits

The cash of the pool and the loans it has given, less what it owes its depositors:
`MoneyPool.RuntimeState.backing`. The operations of the pool are meant to leave it
alone. `MoneyPool.backing_kept_iff` says, for each of them and for every state, when
a successful one does: `MoneyPool.RuntimeState.KeepsBacking`.
-/

namespace MoneyPool

open Pallet Pallet.Exec DepositLoan RuntimeState

variable {AccountId : Type} [DecidableEq AccountId] [Inhabited AccountId]

namespace RuntimeState

variable (s : RuntimeState AccountId)

/-- **The backing**: cash and loans, less what the dtokens are worth. -/
def backing : ℤ :=
  (s.cash.toNat : ℤ) + s.saving.totalLoan.toNat - s.saving.totalDtoken.toNat

/-- **One pool**: collection, profit and loan asset are the same, the collateral is
another one, and the four accounts of the pool are different. -/
structure OnePool : Prop where
  profit : s.saving.profitAssetId = s.saving.collectionAssetId
  loan : s.saving.loanAssetId = s.saving.collectionAssetId
  collateral : s.saving.collateralAssetId ≠ s.saving.collectionAssetId
  accounts : [s.saving.collectionAccountId, s.saving.pawnShop, s.saving.profitPool,
    s.saving.liquidationAccount].Nodup

/-- Whether an account is none of the four. -/
def IsUser (who : AccountId) : Prop :=
  who ∉ [s.saving.collectionAccountId, s.saving.pawnShop, s.saving.profitPool,
    s.saving.liquidationAccount]

/-- **The operations of the pool**, called by users, and the hooks. -/
def PoolStep : Step AccountId → Prop
  | .extrinsic (.signed who) (.depositLoan (.staking _ _)) => s.IsUser who
  | .extrinsic (.signed who) (.depositLoan (.redeem _ _)) => s.IsUser who
  | .extrinsic (.signed who) (.depositLoan (.applyLoan _ _)) => s.IsUser who
  | .extrinsic (.signed who) (.depositLoan (.draw _ _)) => s.IsUser who
  | .extrinsic (.signed who) (.depositLoan (.repayLoan _)) => s.IsUser who
  | .extrinsic (.signed who) (.depositLoan (.addCollateral _ _)) => s.IsUser who
  | .extrinsic _ (.depositLoan (.markLiquidated loanId _)) =>
    s.IsUser (s.saving.loans.get loanId).who
  | .onInitialize _ => True
  | .onFinalize _ => True
  | _ => False

/-- **When an operation keeps the backing**, if it succeeds. -/
def KeepsBacking : Step AccountId → Prop
  | .extrinsic _ (.depositLoan (.staking _ amount)) =>
    s.cash.toNat + amount.toNat < 2 ^ 128 ∧ s.saving.marketDtoken = s.saving.totalDtoken
  | .extrinsic (.signed who) (.depositLoan (.redeem _ amount)) =>
    s.redeemable who = amount ∨
      if s.CanRedeemAll who then
        s.assets.free s.saving.collectionAssetId who + s.redeemable who <
            s.redeemable who - amount ∨
          s.saving.marketDtoken - s.saving.userDtoken.get who =
            s.saving.totalDtoken - s.redeemable who
      else
        s.assets.free s.saving.collectionAssetId who < s.redeemable who - amount ∨
          s.cash.toNat + (s.redeemable who - amount).toNat < 2 ^ 128 ∧
            s.saving.marketDtoken = s.saving.totalDtoken
  | .extrinsic _ (.depositLoan (.applyLoan collateralAmount loanAmount)) =>
    (loanAmount = 0 →
      collateralAmount * s.price * s.limit / (ofU32 ltvPrec * ofU32 pricePrec) = 0) ∧
      s.saving.totalLoan.toNat + loanAmount.toNat < 2 ^ 128
  | .extrinsic _ (.depositLoan (.draw _ amount)) => amount = 0
  | .extrinsic _ (.depositLoan (.repayLoan loanId)) =>
    let balance := (s.saving.loans.get loanId).loanBalanceTotal
    s.cash.toNat + balance.toNat < 2 ^ 128 ↔ balance ≤ s.saving.totalLoan
  | .extrinsic _ (.depositLoan (.markLiquidated loanId auctionBalance)) =>
    let balance := (s.saving.loans.get loanId).loanBalanceTotal
    s.cash.toNat + balance.toNat < 2 ^ 128 ∧ auctionBalance.toNat = 2 * balance.toNat
  | _ => True

end RuntimeState

variable {s s' : RuntimeState AccountId} {who : AccountId} {assetId : AssetId}
  {balance amount collateralAmount loanAmount auctionBalance : Balance} {loanId : LoanId}
  {loan : Loan AccountId}

section Operations

omit [Inhabited AccountId]

omit [DecidableEq AccountId] in
theorem RuntimeState.IsUser.ne_collection (h : s.IsUser who) :
    who ≠ s.saving.collectionAccountId := fun heq => h (heq ▸ List.mem_cons_self ..)

/-! ### Savings -/

/-- **A stake** keeps the backing if the cash does not wrap and the dtokens were worth
their number. -/
theorem backing_staked (hcan : s.CanStake who assetId balance)
    (hasset : s.saving.collectionAssetId = assetId) (hwho : who ≠ s.saving.collectionAccountId) :
    (s.staked who assetId balance).backing = s.backing ↔
      s.cash.toNat + balance.toNat < 2 ^ 128 ∧ s.saving.marketDtoken = s.saving.totalDtoken := by
  have hcash : (s.staked who assetId balance).cash = s.cash + balance := by
    subst hasset
    exact GenericAsset.Store.free_moved_to hwho
  have htotal : (s.staked who assetId balance).saving.totalDtoken.toNat =
      s.saving.marketDtoken.toNat + balance.toNat := BitVec.toNat_add_of_lt hcan.total
  have hT := s.saving.totalDtoken.isLt
  have heq : s.saving.marketDtoken = s.saving.totalDtoken ↔
      s.saving.marketDtoken.toNat = s.saving.totalDtoken.toNat :=
    BitVec.toNat_inj.symm
  have hloan : (s.staked who assetId balance).saving.totalLoan = s.saving.totalLoan := rfl
  rw [backing, backing, hcash, htotal, hloan, heq]
  have hb := s.cash.isLt
  rcases toNat_add_cases s.cash balance with h | h <;> omega

/-- An account's dtokens are never worth more than their number. -/
theorem redeemable_le : (s.redeemable who).toNat ≤ (s.saving.userDtoken.get who).toNat := by
  rw [redeemable, BitVec.toNat_udiv]
  exact Nat.div_le_self ..

/-- Paying out keeps the backing. -/
theorem backing_paidOut (hwho : who ≠ s.saving.collectionAccountId) :
    (s.paidOut who).backing = s.backing := by
  unfold paidOut
  split
  · rename_i hall
    have hw := BitVec.le_def.mp hall.covered
    have hT := redeemable_le.trans (BitVec.le_def.mp hall.total)
    have hcash : (s.redeemedAll who).cash = s.cash - s.redeemable who :=
      GenericAsset.Store.free_moved_from hwho.symm
    have htotal : (s.redeemedAll who).saving.totalDtoken.toNat =
        s.saving.totalDtoken.toNat - (s.redeemable who).toNat :=
      BitVec.toNat_sub_of_le (BitVec.le_def.mpr hT)
    have hloan : (s.redeemedAll who).saving.totalLoan = s.saving.totalLoan := rfl
    rw [backing, backing, hcash, htotal, hloan, BitVec.toNat_sub_of_le hall.covered]
    omega
  · rfl

/-- **A redeem** keeps the backing if nothing is left to stake again, if staking it
fails, or if that stake keeps it. -/
theorem backing_redeemed (hcan : s.CanRedeem who assetId amount)
    (hred : s.Redeemed who assetId amount s') (hwho : who ≠ s.saving.collectionAccountId) :
    s'.backing = s.backing ↔ s.redeemable who = amount ∨
      if s.CanRedeemAll who then
        s.assets.free s.saving.collectionAssetId who + s.redeemable who <
            s.redeemable who - amount ∨
          s.saving.marketDtoken - s.saving.userDtoken.get who =
            s.saving.totalDtoken - s.redeemable who
      else
        s.assets.free s.saving.collectionAssetId who < s.redeemable who - amount ∨
          s.cash.toNat + (s.redeemable who - amount).toNat < 2 ^ 128 ∧
            s.saving.marketDtoken = s.saving.totalDtoken := by
  have hrest : s.redeemable who - amount = 0 ↔ s.redeemable who = amount := sub_eq_zero
  have hwho₁ : who ≠ (s.paidOut who).saving.collectionAccountId := by
    rwa [paidOut_collectionAccountId]
  rw [← backing_paidOut hwho]
  cases hred with
  | restaked hstake =>
    have hasset : (s.paidOut who).saving.collectionAssetId = assetId :=
      (s.paidOut_collectionAssetId who).trans hcan.asset
    rw [backing_staked hstake hasset hwho₁, or_iff_right (mt hrest.mpr hstake.ne_zero)]
    have hcov := hstake.covered
    subst hasset
    rw [paidOut_collectionAssetId] at hcov
    split
    · rename_i hall
      have hpaid : s.paidOut who = s.redeemedAll who := if_pos hall
      have hfree : (s.redeemedAll who).assets.free s.saving.collectionAssetId who =
          s.assets.free s.saving.collectionAssetId who + s.redeemable who :=
        GenericAsset.Store.free_moved_to hwho.symm
      have hcash : (s.redeemedAll who).cash = s.cash - s.redeemable who :=
        GenericAsset.Store.free_moved_from hwho.symm
      have hw := BitVec.le_def.mp hall.covered
      have hworth := BitVec.le_def.mp hcan.worth
      -- the rest goes back where it has just come from
      have hfit : (s.redeemedAll who).cash.toNat + (s.redeemable who - amount).toNat < 2 ^ 128 := by
        have hC := s.cash.isLt
        rw [hcash, BitVec.toNat_sub_of_le hall.covered, BitVec.toNat_sub_of_le hcan.worth]
        omega
      rw [hpaid, hfree] at hcov
      rw [hpaid, or_iff_right (BitVec.not_lt.mpr hcov), and_iff_right hfit]
      rfl
    · rename_i hall
      have hsame : s.paidOut who = s := if_neg hall
      rw [hsame] at hcov ⊢
      rw [or_iff_right (BitVec.not_lt.mpr hcov)]
  | kept hno =>
    refine iff_of_true rfl ?_
    rw [hrest] at hno
    refine hno.imp id fun hno => ?_
    have hlt := BitVec.not_le.mp hno
    rw [← hcan.asset] at hlt
    split
    · rename_i hall
      have hfree : (s.redeemedAll who).assets.free s.saving.collectionAssetId who =
          s.assets.free s.saving.collectionAssetId who + s.redeemable who :=
        GenericAsset.Store.free_moved_to hwho.symm
      have hpaid : s.paidOut who = s.redeemedAll who := if_pos hall
      rw [hpaid, hfree] at hlt
      exact Or.inl hlt
    · rename_i hall
      have hsame : s.paidOut who = s := if_neg hall
      rw [hsame] at hlt
      exact Or.inl hlt

/-! ### Loans -/

/-- **A loan** keeps the backing if what is recorded is what is paid out. -/
theorem backing_withLoan (hpool : s.OnePool) (hwho : who ≠ s.saving.collectionAccountId)
    (hcan : s.CanApply .release who collateralAmount loanAmount) :
    (s.withLoan who collateralAmount loanAmount).backing = s.backing ↔
      (loanAmount = 0 →
        collateralAmount * s.price * s.limit / (ofU32 ltvPrec * ofU32 pricePrec) = 0) ∧
        s.saving.totalLoan.toNat + loanAmount.toNat < 2 ^ 128 := by
  have htaken : (s.collateralTaken who collateralAmount loanAmount).cash = s.cash :=
    free_collateralTaken hpool.collateral _
  have hpaid : loanAmount ≤ s.cash := htaken ▸ hcan.paid
  have hcash : (s.withLoan who collateralAmount loanAmount).cash = s.cash - loanAmount :=
    free_withLoan_collection hwho hpool.collateral
  have hloan : (s.withLoan who collateralAmount loanAmount).saving.totalLoan =
      s.saving.totalLoan + (s.terms collateralAmount loanAmount).loanAmount := rfl
  have htotal : (s.withLoan who collateralAmount loanAmount).saving.totalDtoken =
      s.saving.totalDtoken := rfl
  -- what is recorded is what is asked for, or the limit if nothing is asked for
  have hterms := loanAmount_terms_iff (s := s) hcan.granted.asked
  have heq : (s.terms collateralAmount loanAmount).loanAmount = loanAmount ↔
      (s.terms collateralAmount loanAmount).loanAmount.toNat = loanAmount.toNat :=
    BitVec.toNat_inj.symm
  rw [← hterms, heq, backing, backing, hcash, hloan, htotal, BitVec.toNat_sub_of_le hpaid]
  have hle := BitVec.le_def.mp hpaid
  have hlt := (s.terms collateralAmount loanAmount).loanAmount.isLt
  have hL := (s.saving.totalLoan + (s.terms collateralAmount loanAmount).loanAmount).isLt
  rcases toNat_add_cases s.saving.totalLoan (s.terms collateralAmount loanAmount).loanAmount
    with h | h <;> omega

/-- **A repayment** keeps the backing if the cash and the counter of the loans both
wrap or both do not. -/
theorem backing_repaid (hpool : s.OnePool) (hwho : who ≠ s.saving.collectionAccountId) :
    (s.repaid who loan loanId).backing = s.backing ↔
      (s.cash.toNat + loan.loanBalanceTotal.toNat < 2 ^ 128 ↔
        loan.loanBalanceTotal ≤ s.saving.totalLoan) := by
  have hcash : (s.repaid who loan loanId).cash = s.cash + loan.loanBalanceTotal := by
    have hback : (s.paidBack who loan).free s.saving.collectionAssetId
        s.saving.collectionAccountId = s.cash + loan.loanBalanceTotal := by
      rw [paidBack, hpool.loan]
      exact GenericAsset.Store.free_moved_to hwho
    rw [← hback]
    exact GenericAsset.Store.free_moved_asset hpool.collateral.symm
  have hloan : (s.repaid who loan loanId).saving.totalLoan =
      s.saving.totalLoan - loan.loanBalanceTotal := rfl
  have htotal : (s.repaid who loan loanId).saving.totalDtoken = s.saving.totalDtoken := rfl
  rw [backing, backing, hcash, hloan, htotal, BitVec.le_def]
  have hC := (s.cash + loan.loanBalanceTotal).isLt
  rcases toNat_add_cases s.cash loan.loanBalanceTotal with h | h <;>
    rcases toNat_sub_cases s.saving.totalLoan loan.loanBalanceTotal with h' | h' <;> omega

/-- Sharing out a leftover takes it out of the cash. -/
theorem cash_sharedOut {leftover : Balance} (hpool : s.OnePool) (hshare : s.CanShare leftover)
    (howner : loan.who ≠ s.saving.collectionAccountId) :
    ((s.sharedOut loan leftover).free s.saving.collectionAssetId
      s.saving.collectionAccountId).toNat + leftover.toNat = s.cash.toNat := by
  have hprofit : s.saving.collectionAccountId ≠ s.saving.profitPool := by
    have := hpool.accounts
    simp only [List.nodup_cons, List.mem_cons, not_or] at this
    exact this.1.2.1
  have hp := hshare.penalty
  have hr := hshare.rest
  have hfirst : (s.penalized leftover).free s.saving.collectionAssetId
      s.saving.collectionAccountId = s.cash - s.penalty leftover := by
    rw [penalized, hpool.loan]
    exact GenericAsset.Store.free_moved_from hprofit
  have hsecond : (s.sharedOut loan leftover).free s.saving.collectionAssetId
      s.saving.collectionAccountId =
        s.cash - s.penalty leftover - (leftover - s.penalty leftover) := by
    rw [sharedOut, hpool.loan, GenericAsset.Store.free_moved_from howner.symm, hfirst]
  rw [hpool.loan] at hp hr
  rw [hfirst] at hr
  have hp' : s.penalty leftover ≤ s.cash := hp
  have hpn := BitVec.le_def.mp hp'
  have hrn := BitVec.le_def.mp hr
  rw [hsecond, BitVec.toNat_sub_of_le hr, BitVec.toNat_sub_of_le hp'] at *
  have hC := s.cash.isLt
  rcases toNat_sub_cases leftover (s.penalty leftover) with h | h <;> omega

/-- **A liquidation** keeps the backing if the auction brings twice the loan. -/
theorem backing_liquidated (hpool : s.OnePool) (howner : loan.who ≠ s.saving.collectionAccountId)
    (htry : s.CanTryLiquidate loan s.saving.liquidationAccount auctionBalance)
    (hset : s.CanSettle loan s.saving.liquidationAccount auctionBalance) :
    (s.liquidated loan s.saving.liquidationAccount auctionBalance).backing = s.backing ↔
      s.cash.toNat + loan.loanBalanceTotal.toNat < 2 ^ 128 ∧
        auctionBalance.toNat = 2 * loan.loanBalanceTotal.toNat := by
  have hla : s.saving.liquidationAccount ≠ s.saving.collectionAccountId := by
    have := hpool.accounts
    simp only [List.nodup_cons, List.mem_cons, not_or] at this
    exact Ne.symm this.1.2.2.1
  have hsold : (s.sold loan s.saving.liquidationAccount).cash =
      s.cash + loan.loanBalanceTotal := by
    rw [cash, sold, paidBack, hpool.loan]
    exact GenericAsset.Store.free_moved_to hla
  have hle := BitVec.le_def.mp htry.enough
  have hleft : (auctionBalance - loan.loanBalanceTotal).toNat =
      auctionBalance.toNat - loan.loanBalanceTotal.toNat := BitVec.toNat_sub_of_le htry.enough
  -- the leftover is paid out of the savings, whatever there is of it
  have hcash : (s.liquidated loan s.saving.liquidationAccount auctionBalance).cash.toNat +
      (auctionBalance.toNat - loan.loanBalanceTotal.toNat) =
        (s.cash + loan.loanBalanceTotal).toNat := by
    rw [← hsold, ← hleft]
    unfold cash liquidated settled
    by_cases hpos : 0 < auctionBalance - loan.loanBalanceTotal
    · simp only [if_pos hpos]
      exact cash_sharedOut (s := s.sold loan s.saving.liquidationAccount)
        ⟨hpool.profit, hpool.loan, hpool.collateral, hpool.accounts⟩ (hset hpos) howner
    · have hzero : (auctionBalance - loan.loanBalanceTotal).toNat = 0 := by
        have := BitVec.not_lt.mp hpos
        have := BitVec.le_def.mp this
        exact Nat.le_zero.mp this
      simp only [if_neg hpos, hzero]
      rfl
  have hloan : (s.liquidated loan s.saving.liquidationAccount auctionBalance).saving.totalLoan =
      s.saving.totalLoan := rfl
  have htotal : (s.liquidated loan s.saving.liquidationAccount
      auctionBalance).saving.totalDtoken = s.saving.totalDtoken := rfl
  rw [backing, backing, hloan, htotal]
  have hC := (s.cash + loan.loanBalanceTotal).isLt
  have hlt := loan.loanBalanceTotal.isLt
  rcases toNat_add_cases s.cash loan.loanBalanceTotal with h | h <;> omega

end Operations

/-- **A draw** keeps the backing if it draws nothing. -/
theorem backing_drawn : (s.drawn loanId amount).backing = s.backing ↔ amount = 0 := by
  have hzero : amount = 0 ↔ amount.toNat = 0 := BitVec.toNat_inj.symm
  have hcash : (s.drawn loanId amount).cash = s.cash := rfl
  have hloan : (s.drawn loanId amount).saving.totalLoan = s.saving.totalLoan + amount := rfl
  have htotal : (s.drawn loanId amount).saving.totalDtoken = s.saving.totalDtoken := rfl
  rw [backing, backing, hcash, hloan, htotal, hzero]
  have := amount.isLt
  rcases toNat_add_cases s.saving.totalLoan amount with h | h <;> omega

/-- Adding collateral keeps the backing. -/
theorem backing_collateralAdded (hpool : s.OnePool) (hwho : who ≠ s.saving.collectionAccountId) :
    (s.collateralAdded loan who amount).backing = s.backing := by
  have hshop : s.saving.collectionAccountId ≠ s.saving.pawnShop := by
    have := hpool.accounts
    simp only [List.nodup_cons, List.mem_cons, not_or] at this
    exact this.1.1
  have hcash : (s.collateralAdded loan who amount).cash = s.cash :=
    GenericAsset.Store.free_moved_of_ne hwho.symm hshop
  rw [backing, hcash]
  rfl

/-- A step of a hook keeps the backing. -/
theorem RuntimeState.HookStep.backing (h : s.HookStep s') : s'.backing = s.backing := by
  cases h with
  | warned => rfl
  | liquidating => rfl
  | charged assetId fromAccount toAccount =>
    have hcash : ({ s with assets := s.assets.moved assetId fromAccount toAccount 0 } :
        RuntimeState AccountId).cash = s.cash := GenericAsset.Store.free_moved_zero
    rw [RuntimeState.backing, hcash]
    rfl
  | accrued => rfl

/-- **A block hook** keeps the backing. -/
theorem backing_hook (h : Relation.ReflTransGen HookStep s s') : s'.backing = s.backing := by
  induction h with
  | refl => rfl
  | tail _ hstep ih => exact hstep.backing.trans ih

/-! ### All operations -/

variable {i : Step AccountId}

omit [DecidableEq AccountId] in
theorem RuntimeState.PoolStep.of_stake (h : s.PoolStep i)
    (hstake : i.stake = some (who, assetId, amount)) :
    i = .extrinsic (.signed who) (.depositLoan (.staking assetId amount)) ∧ s.IsUser who := by
  unfold Step.stake at hstake
  split at hstake
  · cases hstake
    exact ⟨rfl, h⟩
  · exact h.elim
  · cases hstake

omit [DecidableEq AccountId] in
theorem RuntimeState.PoolStep.of_redeem (h : s.PoolStep i)
    (hredeem : i.redeem = some (who, assetId, amount)) :
    i = .extrinsic (.signed who) (.depositLoan (.redeem assetId amount)) ∧ s.IsUser who := by
  unfold Step.redeem at hredeem
  split at hredeem
  · cases hredeem
    exact ⟨rfl, h⟩
  · exact h.elim
  · cases hredeem

/-- **The backing is kept** by a successful operation of the pool exactly under the
condition of that operation. -/
theorem backing_kept_iff (hpool : s.OnePool) (hi : s.PoolStep i)
    (hok : (i.exec : Prog .release AccountId Unit) s = .ok () s') :
    s'.backing = s.backing ↔ s.KeepsBacking i := by
  have heff := ok_effect hok
  cases heff with
  | staked who assetId amount hstake hopen hasset hcan =>
    obtain ⟨rfl, huser⟩ := hi.of_stake hstake
    exact backing_staked hcan hasset huser.ne_collection
  | redeemed who assetId amount hredeem hopen hcan hred =>
    obtain ⟨rfl, huser⟩ := hi.of_redeem hredeem
    exact backing_redeemed hcan hred huser.ne_collection
  | granted who collateralAmount loanAmount hopen hcan =>
    exact backing_withLoan hpool hi.ne_collection hcan
  | repaid who loanId hopen htry hret => exact backing_repaid hpool hi.ne_collection
  | liquidated who loanId auctionBalance hopen hwho hfound htry hset =>
    subst hwho
    exact backing_liquidated hpool hi.ne_collection htry hset
  | collateralAdded who loanId amount hopen hfound howner hcov =>
    exact iff_of_true (backing_collateralAdded hpool hi.ne_collection) trivial
  | drawn => exact backing_drawn
  | hook height hsteps => exact iff_of_true (backing_hook hsteps) trivial
  | aggregated => exact iff_of_true rfl trivial
  | set call f hf => cases call <;> cases hf <;> exact hi.elim
  | oracleCall origin => cases origin <;> exact hi.elim
  | ledgerCall origin => cases origin <;> exact hi.elim
  | timed => exact hi.elim

theorem exampleState_onePool : exampleState.OnePool :=
  ⟨by decide +kernel, by decide +kernel, by decide +kernel, by decide +kernel⟩

theorem exampleState_isUser : exampleState.IsUser 5 := by
  unfold IsUser
  decide +kernel

theorem backing_kept_example : ∃ s',
    ((signedCall 5 (.applyLoan 2 100)).exec : Prog .release ℕ Unit) exampleState = .ok () s' ∧
      s'.saving.totalLoan = 100 ∧ s'.backing = exampleState.backing := by
  obtain ⟨s', hstate, hloan⟩ := exists_of_any (p := fun s => s.saving.totalLoan = 100)
    (o := (((signedCall 5 (.applyLoan 2 100)).exec : Prog .release ℕ Unit) exampleState).okState)
    (by decide +kernel)
  have hok := Outcome.eq_ok_of_okState hstate
  have hkeeps : exampleState.KeepsBacking (signedCall 5 (.applyLoan 2 100)) :=
    ⟨by decide +kernel, by decide +kernel⟩
  have hstep : exampleState.PoolStep (signedCall 5 (.applyLoan 2 100)) := exampleState_isUser
  exact ⟨s', hok, hloan, (backing_kept_iff exampleState_onePool hstep hok).mpr hkeeps⟩

/-- A loan is granted at the limit: it is recorded and not paid out. -/
theorem backing_not_kept : ¬∀ (s s' : RuntimeState ℕ) (i : Step ℕ), s.OnePool → s.PoolStep i →
    (i.exec : Prog .release ℕ Unit) s = .ok () s' → s'.backing = s.backing := by
  intro h
  obtain ⟨s', hstate, hne⟩ := exists_of_any (p := fun s => s.backing ≠ exampleState.backing)
    (o := (((signedCall 5 (.applyLoan 1 0)).exec : Prog .release ℕ Unit) exampleState).okState)
    (by decide +kernel)
  exact hne (h exampleState s' (signedCall 5 (.applyLoan 1 0)) exampleState_onePool
    exampleState_isUser (Outcome.eq_ok_of_okState hstate))

end MoneyPool
