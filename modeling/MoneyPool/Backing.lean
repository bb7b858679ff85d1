import MoneyPool.GenericAsset.Books
import MoneyPool.LoanBook

/-!
# The pawn shop has the collateral

The collateral of all loans lies in one account, and every borrower expects to get back what is
noted for the loan. Two operations break that. Adding collateral notes an amount of the
collateral asset and takes the same amount of the collection asset. And closing a loan that has
been sold gives its collateral away in the last of its error branches, where the loan stays.

`MoneyPool.RuntimeState.KeepsCollateral` leaves the two out, and as long as every step meets it
the pawn shop has at least what is noted for all loans together (`MoneyPool.collateral_backed`).
-/

namespace MoneyPool

open Pallet Pallet.Exec DepositLoan RuntimeState

variable {AccountId : Type} [DecidableEq AccountId]

/-! ### A ledger with no less -/

namespace GenericAsset

/-- **An account has no less of an asset** in another ledger, in which as much is held of it. -/
structure Store.NoLess (s : Store AccountId) (assetId : AssetId) (who : AccountId)
    (t : Store AccountId) : Prop where
  held : t.held assetId = s.held assetId
  free : (s.free assetId who).toNat ≤ (t.free assetId who).toNat

namespace Store.NoLess

variable {s t : Store AccountId} {assetId asset' : AssetId} {who fromAccount toAccount : AccountId}
  {amount : Balance}

theorem refl (s : Store AccountId) (assetId : AssetId) (who : AccountId) : s.NoLess assetId who s :=
  ⟨rfl, le_rfl⟩

theorem bounded (h : s.NoLess assetId who t) (hs : s.Bounded assetId) : t.Bounded assetId :=
  lt_of_eq_of_lt h.held hs

/-- A transfer of another asset. -/
theorem moved_of_ne (h : s.NoLess assetId who t) (hne : asset' ≠ assetId) :
    s.NoLess assetId who (t.moved asset' fromAccount toAccount amount) := by
  refine ⟨(held_moved_of_ne hne).trans h.held, ?_⟩
  rw [free_moved_asset (Ne.symm hne)]
  exact h.free

/-- A transfer from another account. -/
theorem moved (h : s.NoLess assetId who t) (hs : s.Bounded assetId)
    (hle : amount ≤ t.free asset' fromAccount) (hwho : asset' = assetId → who ≠ fromAccount) :
    s.NoLess assetId who (t.moved asset' fromAccount toAccount amount) :=
  ⟨((h.bounded hs).held_moved hle).trans h.held,
    h.free.trans ((h.bounded hs).free_le_moved hle hwho)⟩

/-- A transfer of nothing. -/
theorem moved_zero (h : s.NoLess assetId who t) (hs : s.Bounded assetId) :
    s.NoLess assetId who (t.moved asset' fromAccount toAccount 0) := by
  refine ⟨((h.bounded hs).held_moved ?_).trans h.held, ?_⟩
  · exact BitVec.le_def.mpr (Nat.zero_le _)
  · rw [free_moved_zero]
    exact h.free

end Store.NoLess

end GenericAsset

/-! ### The steps -/

/-- **The steps of the pawn shop**: everything but the calls of the ledger and the settings that
choose an asset or an account. -/
def Step.keepsPlaces : Step AccountId → Prop
  | .extrinsic _ (.genericAsset _) => False
  | .extrinsic _ (.depositLoan (.setCollectionAssetId _)) => False
  | .extrinsic _ (.depositLoan (.setCollectionAccount _)) => False
  | .extrinsic _ (.depositLoan (.setCollateralAssetId _)) => False
  | .extrinsic _ (.depositLoan (.setLoanAssetId _)) => False
  | .extrinsic _ (.depositLoan (.setLiquidationAccount _)) => False
  | .extrinsic _ (.depositLoan (.setProfitAssetId _)) => False
  | .extrinsic _ (.depositLoan (.setProfitPool _)) => False
  | _ => True

/-- Nobody signs a step for an account. -/
def Step.notSignedBy (who : AccountId) : Step AccountId → Prop
  | .extrinsic origin _ => origin ≠ .signed who
  | _ => True

namespace RuntimeState

variable [Inhabited AccountId] (s : RuntimeState AccountId)

/-- What the pawn shop has of the collateral asset. -/
def shopHolds : Balance := s.assets.free s.saving.collateralAssetId s.saving.pawnShop

/-- **Sharing out a leftover keeps the collateral**: if the loan asset is the collateral asset,
the pawn shop is none of the accounts that pay and does not stand in for them; and the branch
that gives away the collateral of the loan is not reached, or there is no collateral. -/
structure SharesCleanly (loan : Loan AccountId) (leftover : Balance) : Prop where
  lent : s.saving.loanAssetId = s.saving.collateralAssetId →
    s.saving.pawnShop ≠ s.saving.collectionAccountId ∧ s.saving.pawnShop ≠ s.saving.profitPool ∧
      (s.penalty leftover ≤ s.assets.free s.saving.loanAssetId s.saving.collectionAccountId ∨
        ¬loan.loanBalanceTotal ≤ s.assets.free s.saving.loanAssetId s.saving.pawnShop)
  given : s.penalty leftover ≤ s.assets.free s.saving.loanAssetId s.saving.collectionAccountId →
    s.penalty leftover ≤ (s.penalized leftover).free s.saving.loanAssetId s.saving.profitPool →
      leftover - s.penalty leftover ≤
          (s.penalized leftover).free s.saving.loanAssetId s.saving.collectionAccountId ∨
        loan.collateralBalanceOriginal = 0

/-- **When a step keeps the collateral**: collateral is added to a loan only by nothing, and
closing a loan shares out a leftover cleanly. -/
def KeepsCollateral : Step AccountId → Prop
  | .extrinsic (.signed who) (.depositLoan (.addCollateral loanId amount)) =>
    s.saving.paused = false → s.saving.loans.containsKey loanId = true →
      who = (s.saving.loans.get loanId).who →
        amount ≤ s.assets.free s.saving.collectionAssetId who → amount = 0
  | .extrinsic (.signed who) (.depositLoan (.markLiquidated loanId auctionBalance)) =>
    let loan := s.saving.loans.get loanId
    s.saving.paused = false → who = s.saving.liquidationAccount →
      s.saving.loans.containsKey loanId = true → s.CanTryLiquidate loan who auctionBalance →
        0 < auctionBalance - loan.loanBalanceTotal →
          (s.sold loan who).SharesCleanly loan (auctionBalance - loan.loanBalanceTotal)
  | _ => True

/-- **The collateral is backed**: the pawn shop has at least what is noted for all loans. -/
structure Backed : Prop where
  keysAreIds : s.saving.KeysAreIds
  distinct : s.saving.collectionAssetId ≠ s.saving.collateralAssetId
  bounded : s.assets.Bounded s.saving.collateralAssetId
  backed : s.saving.collateralSum ≤ s.shopHolds.toNat

end RuntimeState

section Sums

variable {t t' : DepositLoan.Store AccountId} {loanId : LoanId} {loan : Loan AccountId}

omit [DecidableEq AccountId] in
/-- A written loan counts with its collateral. -/
theorem collateralSum_insert (hb : t'.loans = t.loans.insert loanId loan) :
    t'.collateralSum ≤ t.collateralSum + loan.collateralBalanceOriginal.toNat := by
  have htotal := StorageMap.total_insert
    (f := fun _ (loan : Loan AccountId) => loan.collateralBalanceOriginal.toNat) t.loans loanId loan
  rw [DepositLoan.Store.collateralSum, DepositLoan.Store.collateralSum, hb]
  omega

omit [DecidableEq AccountId] in
/-- A loan may be rewritten with the same collateral. -/
theorem collateralSum_rewrite {loan' : Loan AccountId} (hold : t.loans.get? loanId = some loan)
    (hb : t'.loans = t.loans.insert loanId loan')
    (hsame : loan'.collateralBalanceOriginal = loan.collateralBalanceOriginal) :
    t'.collateralSum = t.collateralSum := by
  have htotal := StorageMap.total_insert_old
    (f := fun _ (loan : Loan AccountId) => loan.collateralBalanceOriginal.toNat) hold loan'
  rw [DepositLoan.Store.collateralSum, DepositLoan.Store.collateralSum, hb]
  rw [hsame] at htotal
  omega

omit [DecidableEq AccountId] in
/-- A removed loan no longer counts. -/
theorem collateralSum_remove (hold : t.loans.get? loanId = some loan)
    (hb : t'.loans = t.loans.remove loanId) :
    t'.collateralSum + loan.collateralBalanceOriginal.toNat = t.collateralSum := by
  have htotal := StorageMap.total_remove_old
    (f := fun _ (loan : Loan AccountId) => loan.collateralBalanceOriginal.toNat) hold
  rw [DepositLoan.Store.collateralSum, DepositLoan.Store.collateralSum, hb]
  omega

omit [DecidableEq AccountId] in
/-- A loan in the book counts. -/
theorem le_collateralSum (hold : t.loans.get? loanId = some loan) :
    loan.collateralBalanceOriginal.toNat ≤ t.collateralSum := by
  have hsum :
      ({ t with loans := t.loans.remove loanId } : DepositLoan.Store AccountId).collateralSum +
        loan.collateralBalanceOriginal.toNat = t.collateralSum := collateralSum_remove hold rfl
  exact (Nat.le_add_left _ _).trans hsum.le

end Sums

section Parts

variable {s s' : RuntimeState AccountId} {loan : Loan AccountId}
  {who : AccountId} {assetId : AssetId} {amount leftover : Balance}

/-- A redeem moves the collection asset. -/
theorem RuntimeState.Redeemed.noLess (h : s.Redeemed who assetId amount s')
    (hasset : s.saving.collectionAssetId = assetId)
    (hne : s.saving.collectionAssetId ≠ s.saving.collateralAssetId) :
    s.assets.NoLess s.saving.collateralAssetId s.saving.pawnShop s'.assets := by
  have hpaid : s.assets.NoLess s.saving.collateralAssetId s.saving.pawnShop
      (s.paidOut who).assets := by
    unfold paidOut
    split
    · exact (GenericAsset.Store.NoLess.refl ..).moved_of_ne hne
    · exact .refl ..
  cases h with
  | restaked => exact hpaid.moved_of_ne (hasset ▸ hne)
  | kept => exact hpaid

namespace RuntimeState.Backed

/-- Nobody has taken from the pawn shop, and no more is noted. -/
theorem of_noLess (hb : s.Backed) (hkeys : s'.saving.KeysAreIds)
    (hcollection : s'.saving.collectionAssetId = s.saving.collectionAssetId)
    (hcollateral : s'.saving.collateralAssetId = s.saving.collateralAssetId)
    (hshop : s'.saving.pawnShop = s.saving.pawnShop)
    (hl : s.assets.NoLess s.saving.collateralAssetId s.saving.pawnShop s'.assets)
    (hsum : s'.saving.collateralSum ≤ s.saving.collateralSum) : s'.Backed := by
  refine ⟨hkeys, ?_, ?_, ?_⟩
  · rw [hcollection, hcollateral]
    exact hb.distinct
  · rw [hcollateral]
    exact hl.bounded hb.bounded
  · rw [shopHolds, hcollateral, hshop]
    exact hsum.trans (hb.backed.trans hl.free)

/-- The pawn shop has the collateral of every loan. -/
theorem le_shopHolds (hb : s.Backed) {loanId : LoanId}
    (hget : s.saving.loans.get? loanId = some loan) :
    loan.collateralBalanceOriginal.toNat ≤ s.shopHolds.toNat :=
  (le_collateralSum hget).trans hb.backed

/-- A payment of somebody else. -/
theorem paidBack (hb : s.Backed) (hwho : who ≠ s.saving.pawnShop)
    (hle : loan.loanBalanceTotal ≤ s.assets.free s.saving.loanAssetId who) :
    s.assets.NoLess s.saving.collateralAssetId s.saving.pawnShop (s.paidBack who loan) :=
  (GenericAsset.Store.NoLess.refl ..).moved hb.bounded hle fun _ => Ne.symm hwho

/-- **Every borrower who repays gets the collateral back.** -/
theorem canReturn [Inhabited AccountId] (hb : s.Backed) {loanId : LoanId}
    (hwho : who ≠ s.saving.pawnShop)
    (htry : s.CanTryRepay who loan loanId) : s.CanReturn who loan := by
  have hget := StorageMap.get?_of_containsKey htry.found
  rw [← htry.read] at hget
  exact BitVec.le_def.mpr ((hb.le_shopHolds hget).trans (hb.paidBack hwho htry.funded).free)

end RuntimeState.Backed

namespace RuntimeState.SharesCleanly

variable {ledger assets : GenericAsset.Store AccountId}

/-- Sharing out a leftover does not take from the pawn shop. -/
theorem sharedOut (h : s.SharesCleanly loan leftover)
    (hledger : ledger.Bounded s.saving.collateralAssetId)
    (hl : ledger.NoLess s.saving.collateralAssetId s.saving.pawnShop s.assets)
    (hshare : s.CanShare leftover) :
    ledger.NoLess s.saving.collateralAssetId s.saving.pawnShop (s.sharedOut loan leftover) := by
  have hpenalized : ledger.NoLess s.saving.collateralAssetId s.saving.pawnShop
      (s.penalized leftover) := hl.moved hledger hshare.penalty fun heq => (h.lent heq).1
  exact hpenalized.moved hledger hshare.rest fun heq => (h.lent heq).1

/-- Failing to share it out does not either. -/
theorem notShared (h : s.SharesCleanly loan leftover)
    (hledger : ledger.Bounded s.saving.collateralAssetId)
    (hl : ledger.NoLess s.saving.collateralAssetId s.saving.pawnShop s.assets)
    (hnot : s.NotShared loan who leftover assets) :
    ledger.NoLess s.saving.collateralAssetId s.saving.pawnShop assets := by
  have hpenalized (hp : s.penalty leftover ≤
      s.assets.free s.saving.loanAssetId s.saving.collectionAccountId) :
      ledger.NoLess s.saving.collateralAssetId s.saving.pawnShop (s.penalized leftover) :=
    hl.moved hledger hp fun heq => (h.lent heq).1
  have hback (hp : s.penalty leftover ≤
      s.assets.free s.saving.loanAssetId s.saving.collectionAccountId)
      (hr : s.penalty leftover ≤
        (s.penalized leftover).free s.saving.loanAssetId s.saving.profitPool) :
      ledger.NoLess s.saving.collateralAssetId s.saving.pawnShop (s.penaltyBack who leftover) :=
    (hpenalized hp).moved hledger hr fun heq => (h.lent heq).2.1
  cases hnot with
  | penaltyKept hp => exact hl
  | penaltyShort hp hcov =>
    -- the pawn shop pays the balance of the loan, which is not the collateral asset
    refine hl.moved hledger hcov fun heq => ?_
    rcases (h.lent heq).2.2 with hpaid | hno
    · exact (hp hpaid).elim
    · exact (hno hcov).elim
  | restKept hp => exact hpenalized hp
  | restShort hp hr hcov => exact hback hp hcov
  | collateralGiven hp hr hcov =>
    rcases h.given hp hcov with hrest | hzero
    · exact (hr hrest).elim
    · rw [hzero]
      exact (hback hp hcov).moved_zero hledger

end RuntimeState.SharesCleanly

end Parts

/-! ### One step -/

section Steps

variable [Inhabited AccountId] {s s' : RuntimeState AccountId} {i : Step AccountId} {ok : Bool}

theorem RuntimeState.HookStep.backed (h : s.HookStep s') (hb : s.Backed) : s'.Backed := by
  have hkeys := h.keysAreIds hb.keysAreIds
  cases h with
  | warned loanId ltv hfound =>
    refine hb.of_noLess hkeys rfl rfl rfl (.refl ..) (le_of_eq ?_)
    exact collateralSum_rewrite (StorageMap.get?_of_containsKey hfound)
      (hb.keysAreIds.warned_loans hfound ltv) rfl
  | liquidating loanId ltv hfound =>
    refine hb.of_noLess hkeys rfl rfl rfl (.refl ..) (le_of_eq ?_)
    exact collateralSum_rewrite (StorageMap.get?_of_containsKey hfound) rfl rfl
  | charged =>
    exact hb.of_noLess hkeys rfl rfl rfl
      ((GenericAsset.Store.NoLess.refl ..).moved_zero hb.bounded) le_rfl
  | accrued => exact hb.of_noLess hkeys rfl rfl rfl (.refl ..) le_rfl

/-- **The collateral stays backed** in every step that keeps the collateral, if the pawn shop
signs nothing. -/
theorem Effect.backed (h : Effect s i ok s') (hb : s.Backed) (hplaces : i.keepsPlaces)
    (hsigner : i.notSignedBy s.saving.pawnShop) (hi : s.KeepsCollateral i) : s'.Backed := by
  have hkeys := h.keysAreIds hb.keysAreIds
  have hsame : s.assets.NoLess s.saving.collateralAssetId s.saving.pawnShop s.assets := .refl ..
  -- who has signed, is not the pawn shop
  have hne {who : AccountId} (hw : Origin.signed who ≠ .signed s.saving.pawnShop) :
      who ≠ s.saving.pawnShop := fun heq => hw (congrArg Origin.signed heq)
  cases h with
  | unchanged => exact hb
  | timed => exact hb.of_noLess hkeys rfl rfl rfl hsame le_rfl
  | oracleCall => exact hb.of_noLess hkeys rfl rfl rfl hsame le_rfl
  | aggregated => exact hb.of_noLess hkeys rfl rfl rfl hsame le_rfl
  | ledgerCall => exact hplaces.elim
  | ledgerFailed => exact hplaces.elim
  | set call f hf =>
    have hplace : (f s.saving).collectionAssetId = s.saving.collectionAssetId ∧
        (f s.saving).collateralAssetId = s.saving.collateralAssetId ∧
        (f s.saving).pawnShop = s.saving.pawnShop := by
      cases call <;> cases hf <;> first | exact ⟨rfl, rfl, rfl⟩ | exact hplaces.elim
    refine hb.of_noLess hkeys hplace.1 hplace.2.1 hplace.2.2 hsame (le_of_eq ?_)
    change (f s.saving).collateralSum = _
    rw [DepositLoan.Store.collateralSum, setting_loans hf]
    rfl
  | staked who assetId amount hstake hopen hasset =>
    refine hb.of_noLess hkeys rfl rfl rfl (hsame.moved_of_ne ?_) le_rfl
    rw [← hasset]
    exact hb.distinct
  | redeemed who assetId amount hredeem hopen hcan hred =>
    obtain ⟨u, m, d, heq⟩ := hred.saving_eq
    refine hb.of_noLess hkeys (by rw [heq]) (by rw [heq]) (by rw [heq])
      (hred.noLess hcan.asset hb.distinct) (le_of_eq ?_)
    rw [heq]
    rfl
  | granted who collateralAmount loanAmount hopen hcan =>
    have hwho := hne hsigner
    have hdistinct := hb.distinct
    refine ⟨hkeys, hdistinct, ?_, ?_⟩
    · exact ((hsame.moved hb.bounded hcan.covered fun _ => Ne.symm hwho).moved_of_ne
        hdistinct).bounded hb.bounded
    · -- the pawn shop gets what is noted
      have hholds : (s.withLoan who collateralAmount loanAmount).shopHolds.toNat =
          s.shopHolds.toNat + (s.terms collateralAmount loanAmount).collateralAmount.toNat :=
        (congrArg BitVec.toNat (GenericAsset.Store.free_moved_asset (Ne.symm hdistinct))).trans
          (hb.bounded.free_moved_to hcan.covered hwho)
      rw [hholds]
      exact (collateralSum_insert rfl).trans (Nat.add_le_add_right hb.backed _)
  | taken who collateralAmount loanAmount hopen hcov =>
    have hwho := hne hsigner
    exact hb.of_noLess hkeys rfl rfl rfl
      (hsame.moved hb.bounded hcov fun _ => Ne.symm hwho) le_rfl
  | repaid who loanId hopen htry hret =>
    have hwho := hne hsigner
    have hpaid := hb.paidBack hwho htry.funded
    have hbounded := hpaid.bounded hb.bounded
    refine ⟨hkeys, hb.distinct, (hbounded.held_moved hret).trans_lt hbounded, ?_⟩
    -- the pawn shop pays out what is no longer noted
    have hholds : (s.repaid who (s.saving.loans.get loanId) loanId).shopHolds.toNat +
        (s.saving.loans.get loanId).collateralBalanceOriginal.toNat =
          ((s.paidBack who (s.saving.loans.get loanId)).free s.saving.collateralAssetId
            s.saving.pawnShop).toNat := by
      rw [shopHolds, RuntimeState.repaid, GenericAsset.Store.free_moved_from (Ne.symm hwho),
        BitVec.toNat_sub_of_le hret]
      exact Nat.sub_add_cancel (BitVec.le_def.mp hret)
    have hsum : (s.repaid who (s.saving.loans.get loanId) loanId).saving.collateralSum +
        (s.saving.loans.get loanId).collateralBalanceOriginal.toNat = s.saving.collateralSum := by
      refine collateralSum_remove (StorageMap.get?_of_containsKey htry.found) ?_
      rw [RuntimeState.repaid, hb.keysAreIds.get htry.found]
    have hbacked := hb.backed
    have hfree := hpaid.free
    rw [← shopHolds] at hfree
    omega
  | repayReverted who loanId assets hopen htry hret =>
    exact (hret (hb.canReturn (hne hsigner) htry)).elim
  | liquidated who loanId auctionBalance hopen hwho hfound htry hset =>
    have hsold := hb.paidBack (hne hsigner) (BitVec.le_trans htry.enough htry.funded)
    refine hb.of_noLess hkeys rfl rfl rfl ?_ ?_
    · change GenericAsset.Store.NoLess _ _ _ (s.settled _ who auctionBalance)
      unfold settled
      split
      · rename_i hpos
        exact (hi hopen hwho hfound htry hpos).sharedOut hb.bounded hsold (hset hpos)
      · exact hsold
    · refine (Nat.le_add_right _ _).trans
        (collateralSum_remove (StorageMap.get?_of_containsKey hfound) ?_).le
      rw [RuntimeState.liquidated, hb.keysAreIds.get hfound]
  | notLiquidated who loanId auctionBalance assets hopen hwho hfound htry hset ha =>
    have hsold := hb.paidBack (hne hsigner) (BitVec.le_trans htry.enough htry.funded)
    obtain ⟨hpos, -⟩ := Classical.not_imp.mp hset
    exact hb.of_noLess hkeys rfl rfl rfl
      ((hi hopen hwho hfound htry hpos).notShared hb.bounded hsold ha) le_rfl
  | collateralAdded who loanId amount hopen hfound howner hcov =>
    obtain rfl := hi hopen hfound howner hcov
    refine hb.of_noLess hkeys rfl rfl rfl (hsame.moved_zero hb.bounded) (le_of_eq ?_)
    have hloans : (s.collateralAdded (s.saving.loans.get loanId) who 0).saving.loans =
        s.saving.loans.insert loanId { s.saving.loans.get loanId with
          collateralBalanceOriginal := (s.saving.loans.get loanId).collateralBalanceOriginal + 0
          collateralBalanceAvailable :=
            (s.saving.loans.get loanId).collateralBalanceAvailable + 0 } := by
      rw [RuntimeState.collateralAdded, hb.keysAreIds.get hfound]
    exact collateralSum_rewrite (StorageMap.get?_of_containsKey hfound) hloans (add_zero _)
  | drawn who loanId amount hopen hcan =>
    refine hb.of_noLess hkeys rfl rfl rfl hsame (le_of_eq ?_)
    exact collateralSum_rewrite (StorageMap.get?_of_containsKey hcan.found) rfl rfl
  | hook height hsteps =>
    clear hplaces hsigner hi hkeys hsame hne
    induction hsteps with
    | refl => exact hb
    | tail _ hstep ih => exact hstep.backed ih

/-! ### Runs -/

/-- **Collateral is backed**, in every state that is reached by steps that keep the collateral
and that the pawn shop does not sign, from a genesis in which all that is held of the collateral
asset fits a balance: the pawn shop has at least what is noted for all loans together. So it has
what is available to a loan, if that is at most its collateral, and a repayment that passes its
checks goes through, and pays the borrower all of the collateral. -/
theorem collateral_backed {config : GenesisConfig AccountId} {s₀ : RuntimeState AccountId}
    (hgenesis : config.build = some s₀)
    (hdistinct : config.depositLoan.collateralAssetId ≠ config.depositLoan.collectionAssetId)
    (hbounded : s₀.assets.held config.depositLoan.collateralAssetId < 2 ^ 128)
    (hreach : Reach next (fun s i => i.keepsPlaces ∧ i.notSignedBy s.saving.pawnShop ∧
      s.KeepsCollateral i) s₀ s) :
    s.saving.collateralSum ≤
      (s.assets.free s.saving.collateralAssetId s.saving.pawnShop).toNat ∧
    (∀ loanId loan, s.saving.loans.get? loanId = some loan →
      loan.collateralBalanceAvailable ≤ loan.collateralBalanceOriginal →
      loan.collateralBalanceAvailable ≤
        s.assets.free s.saving.collateralAssetId s.saving.pawnShop) ∧
    ∀ who loanId, who ≠ s.saving.pawnShop → s.saving.paused = false →
      s.CanTryRepay who (s.saving.loans.get loanId) loanId →
      ∃ s', (repayLoan (.signed who) loanId : Prog .release AccountId Unit) s = .ok () s' ∧
        (s'.assets.free s.saving.collateralAssetId who).toNat =
          ((s.paidBack who (s.saving.loans.get loanId)).free s.saving.collateralAssetId who).toNat +
            (s.saving.loans.get loanId).collateralBalanceOriginal.toNat := by
  have hstart : s₀.Backed := by
    have hsaving := config.saving_of_build hgenesis
    refine ⟨?_, ?_, ?_, ?_⟩
    · exact keysAreIds_of_reach (c := fun _ _ => True) hgenesis .refl
    · rw [hsaving]
      exact Ne.symm hdistinct
    · rw [hsaving]
      exact hbounded
    · rw [hsaving]
      exact Nat.zero_le _
  have hb : s.Backed := hreach.invariant (I := fun s => s.Backed) hstart fun _ _ _ hb hi hnext => by
    obtain ⟨ok, heff⟩ := next_effect hnext
    exact heff.backed hb hi.1 hi.2.1 hi.2.2
  refine ⟨hb.backed, fun _ _ hget hle => ?_, fun who loanId hwho hopen htry => ?_⟩
  · exact BitVec.le_trans hle (BitVec.le_def.mpr (hb.le_shopHolds hget))
  -- what is noted for all loans covers what is noted for this one
  have hret := hb.canReturn hwho htry
  refine ⟨s.repaid who (s.saving.loans.get loanId) loanId, eq_ok_of_wp ?_, ?_⟩
  · simp only [repayLoan, wp_bind, wp_gets, wp_ensure, wp_ensureSigned]
    refine ⟨fun _ => ⟨?_, fun hno => hno who rfl⟩, fun hno => hno hopen⟩
    rintro _ ⟨⟩
    exact (wp_of_ok (repayForLoan_ok htry hret fun h => (Bool.false_ne_true h).elim)).mpr rfl
  · exact ((hb.paidBack hwho htry.funded).bounded hb.bounded).free_moved_to hret (Ne.symm hwho)

end Steps

theorem collateral_backed_example : ∃ s s',
    next (signedCall 5 (.applyLoan 3 100)) exampleState = some s ∧ s.assets.free 1 2 = 3 ∧
    s.saving.collateralSum ≤ (s.assets.free s.saving.collateralAssetId s.saving.pawnShop).toNat ∧
    (repayLoan (.signed 5) 0 : Prog .release ℕ Unit) s = .ok () s' := by
  obtain ⟨s, hnext, hholds, hshop, hopen, hfound, howner, hfunded, hthere, hcalm⟩ := exists_of_any
    (p := fun s => s.assets.free 1 2 = 3 ∧ 5 ≠ s.saving.pawnShop ∧ s.saving.paused = false ∧
      s.saving.loans.containsKey 0 = true ∧ (s.saving.loans.get 0).who = 5 ∧
      (s.saving.loans.get 0).loanBalanceTotal ≤ s.assets.free s.saving.loanAssetId 5 ∧
      (s.saving.loans.get 0).collateralBalanceAvailable ≤
        s.assets.free s.saving.collateralAssetId s.saving.pawnShop ∧
      s.saving.checkLoanInLiquidation 0 = false)
    (o := next (signedCall 5 (.applyLoan 3 100)) exampleState) (by decide +kernel)
  have hsigner : (signedCall 5 (.applyLoan 3 100)).notSignedBy exampleState.saving.pawnShop := by
    intro h
    exact absurd (Origin.signed.inj h) (by decide +kernel)
  have hreach : Reach next (fun (s : RuntimeState ℕ) i => i.keepsPlaces ∧
      i.notSignedBy s.saving.pawnShop ∧ s.KeepsCollateral i) exampleState s :=
    Reach.refl.tail (i := signedCall 5 (.applyLoan 3 100)) ⟨trivial, hsigner, trivial⟩ hnext
  obtain ⟨hbacked, -, hrepay⟩ := collateral_backed exampleConfig_build (by decide)
    (by decide +kernel) hreach
  obtain ⟨s', hs', -⟩ := hrepay 5 0 hshop hopen ⟨hfound, rfl, howner, hfunded, hthere, hcalm⟩
  exact ⟨s, s', hnext, hholds, hbacked, hs'⟩

/-- Somebody adds collateral to a loan, and the pawn shop gets the other asset. -/
theorem collateral_short : ¬∀ s, Reach next (fun _ i => i.isDepositLoan = true ∧ i.keepsPlaces ∧
      i.notSignedBy exampleConfig.depositLoan.pawnShop) exampleState s →
    s.saving.collateralSum ≤
      (s.assets.free s.saving.collateralAssetId s.saving.pawnShop).toNat := by
  intro h
  obtain ⟨s, hrun, hsum, hholds⟩ := exists_of_any
    (p := fun s => s.saving.collateralSum = 53 ∧
      s.assets.free s.saving.collateralAssetId s.saving.pawnShop = 3)
    (o := run next [signedCall 5 (.applyLoan 3 100), signedCall 5 (.addCollateral 0 50)]
      exampleState) (by decide +kernel)
  have hreach : Reach next (fun _ i => i.isDepositLoan = true ∧ i.keepsPlaces ∧
      i.notSignedBy exampleConfig.depositLoan.pawnShop) exampleState s := by
    refine reach_of_run (c := fun i => i.isDepositLoan = true ∧ i.keepsPlaces ∧
      i.notSignedBy exampleConfig.depositLoan.pawnShop) hrun ?_
    simp [signedCall, Step.isDepositLoan, Step.keepsPlaces, Step.notSignedBy, exampleConfig,
      testnetGenesis, exampleAccounts]
  have hle := h s hreach
  rw [hsum, hholds] at hle
  exact absurd hle (by decide)

end MoneyPool
