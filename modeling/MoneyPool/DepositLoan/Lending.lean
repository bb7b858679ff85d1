import MoneyPool.GenericAsset.Ledger
import MoneyPool.DepositLoan.Loans

/-!
# What lending does

The final states of the loan operations, written out, each with the specification
of its program. Where an operation can fail after it has written something, the
state it leaves behind is written out too:
`MoneyPool.RuntimeState.collateralTaken`, `MoneyPool.RuntimeState.repayReverted`
and `MoneyPool.RuntimeState.Liquidated`.
-/

namespace MoneyPool

open Pallet Pallet.Exec DepositLoan

variable {AccountId : Type} [DecidableEq AccountId] [Inhabited AccountId] {β : Build}

namespace RuntimeState

variable (s : RuntimeState AccountId) (who : AccountId)

/-! ### A new loan -/

/-- The price as a balance. -/
def price : Balance := ofU64 s.btcPrice

/-- The limit of the LTV as a balance. -/
def limit : Balance := ofU64 s.saving.globalLTVLimit

/-- **The terms of a loan**, as the code computes them. -/
def terms (collateralAmount loanAmount : Balance) : CollateralLoan :=
  if collateralAmount = 0 then
    { collateralAmount :=
        loanAmount * ofU32 ltvPrec * ofU32 pricePrec / (s.price * s.limit)
      loanAmount := loanAmount }
  else if loanAmount = 0 then
    { collateralAmount := collateralAmount
      loanAmount :=
        collateralAmount * s.price * s.limit / (ofU32 ltvPrec * ofU32 pricePrec) }
  else { collateralAmount := collateralAmount, loanAmount := loanAmount }

variable (β) in
/-- What the computation of the terms has checked. In a build that checks products,
that includes that they fit. -/
structure CanGrant (collateralAmount loanAmount : Balance) : Prop where
  asked : ¬(collateralAmount = 0 ∧ loanAmount = 0)
  byLoan : collateralAmount = 0 → s.price * s.limit ≠ 0 ∧ (β.products = true →
    loanAmount.toNat * (ofU32 ltvPrec).toNat < 2 ^ 128 ∧
      (loanAmount * ofU32 ltvPrec).toNat * (ofU32 pricePrec).toNat < 2 ^ 128 ∧
      s.price.toNat * s.limit.toNat < 2 ^ 128)
  byCollateral : collateralAmount ≠ 0 → loanAmount = 0 → β.products = true →
    collateralAmount.toNat * s.price.toNat < 2 ^ 128 ∧
      (collateralAmount * s.price).toNat * s.limit.toNat < 2 ^ 128
  both : collateralAmount ≠ 0 → loanAmount ≠ 0 → collateralAmount * s.price ≠ 0 ∧
    loanAmount * ofU32 ltvPrec * ofU32 pricePrec / (collateralAmount * s.price) < s.limit ∧
    (β.products = true →
      loanAmount.toNat * (ofU32 ltvPrec).toNat < 2 ^ 128 ∧
        (loanAmount * ofU32 ltvPrec).toNat * (ofU32 pricePrec).toNat < 2 ^ 128 ∧
        collateralAmount.toNat * s.price.toNat < 2 ^ 128)

/-- The state after the collateral of a loan has been taken and its id used up. An
application whose loan cannot be paid out stops here. -/
def collateralTaken (collateralAmount loanAmount : Balance) : RuntimeState AccountId :=
  { s with
    assets := s.assets.moved s.saving.collateralAssetId who s.saving.pawnShop
      (s.terms collateralAmount loanAmount).collateralAmount
    saving := { s.saving with nextLoanId := s.saving.nextLoanId + 1 } }

/-- The loan an application creates. -/
def newLoan (collateralAmount loanAmount : Balance) : Loan AccountId :=
  { id := s.saving.nextLoanId
    who := who
    collateralBalanceOriginal := (s.terms collateralAmount loanAmount).collateralAmount
    collateralBalanceAvailable :=
      (s.terms collateralAmount loanAmount).collateralAmount - loanAmount / s.price
    loanBalanceTotal := (s.terms collateralAmount loanAmount).loanAmount
    status := default }

/-- **The state after a loan is granted.** What is paid out is the amount that was
asked for, what is recorded the amount that was granted. -/
def withLoan (collateralAmount loanAmount : Balance) : RuntimeState AccountId :=
  let t := s.collateralTaken who collateralAmount loanAmount
  { t with
    assets := t.assets.moved s.saving.collectionAssetId s.saving.collectionAccountId who loanAmount
    saving := { t.saving with
      loans := t.saving.loans.insert s.saving.nextLoanId
        (s.newLoan who collateralAmount loanAmount)
      loansByAccount :=
        t.saving.loansByAccount.mutate who fun v => v ++ [s.saving.nextLoanId]
      totalLoan := t.saving.totalLoan + (s.terms collateralAmount loanAmount).loanAmount
      totalCollateral :=
        t.saving.totalCollateral + (s.terms collateralAmount loanAmount).collateralAmount } }

variable (β) in
/-- What a successful application has checked. -/
structure CanApply (collateralAmount loanAmount : Balance) : Prop where
  funded : loanAmount ≤ s.cash
  capped : ¬(s.saving.loanCap.isSome = true ∧ s.saving.loanCap.getD 0 ≤ s.saving.totalLoan)
  granted : s.CanGrant β collateralAmount loanAmount
  minimum : s.saving.minimumCollateral ≤ collateralAmount
  covered : (s.terms collateralAmount loanAmount).collateralAmount ≤
    s.assets.free s.saving.collateralAssetId who
  price : s.price ≠ 0
  available : β.sums = true → (loanAmount / s.price).toNat ≤
    (s.terms collateralAmount loanAmount).collateralAmount.toNat
  paid : loanAmount ≤ (s.collateralTaken who collateralAmount loanAmount).cash
  totalLoan : β.sums = true → s.saving.totalLoan.toNat +
    (s.terms collateralAmount loanAmount).loanAmount.toNat < 2 ^ 128
  totalCollateral : β.sums = true → s.saving.totalCollateral.toNat +
    (s.terms collateralAmount loanAmount).collateralAmount.toNat < 2 ^ 128

section NewLoan

variable {s who} {collateralAmount loanAmount : Balance}

omit [DecidableEq AccountId] [Inhabited AccountId] in
/-- An amount that is asked for is recorded. -/
theorem loanAmount_terms_of_ne (hl : loanAmount ≠ 0) :
    (s.terms collateralAmount loanAmount).loanAmount = loanAmount := by
  rw [terms, if_neg hl]
  split <;> rfl

omit [DecidableEq AccountId] [Inhabited AccountId] in
/-- An amount that is left to the code is worked out. -/
theorem loanAmount_terms_zero (hc : collateralAmount ≠ 0) :
    (s.terms collateralAmount 0).loanAmount =
      collateralAmount * s.price * s.limit / (ofU32 ltvPrec * ofU32 pricePrec) := by
  rw [terms, if_neg hc, if_pos rfl]

omit [DecidableEq AccountId] [Inhabited AccountId] in
/-- **What is recorded is what is asked for**, unless the limit allows something to a borrower who
has left the amount to the code. -/
theorem loanAmount_terms_iff (hask : ¬(collateralAmount = 0 ∧ loanAmount = 0)) :
    (s.terms collateralAmount loanAmount).loanAmount = loanAmount ↔ (loanAmount = 0 →
      collateralAmount * s.price * s.limit / (ofU32 ltvPrec * ofU32 pricePrec) = 0) := by
  rcases eq_or_ne loanAmount 0 with rfl | hl
  · rw [loanAmount_terms_zero fun hc => hask ⟨hc, rfl⟩]
    exact ⟨fun h _ => h, fun h => h rfl⟩
  · rw [loanAmount_terms_of_ne hl]
    exact iff_of_true rfl fun hzero => absurd hzero hl

omit [Inhabited AccountId] in
/-- The loan that has been created. -/
theorem get?_withLoan (who : AccountId) (collateralAmount loanAmount : Balance) :
    (s.withLoan who collateralAmount loanAmount).saving.loans.get? s.saving.nextLoanId =
      some (s.newLoan who collateralAmount loanAmount) := by
  rw [withLoan, StorageMap.get?_insert, if_pos rfl]

omit [Inhabited AccountId] in
/-- Granting a loan leaves the price alone. -/
theorem btcPrice_withLoan (who : AccountId) (collateralAmount loanAmount : Balance) :
    (s.withLoan who collateralAmount loanAmount).btcPrice = s.btcPrice := by
  simp only [btcPrice, withLoan, collateralTaken, GenericAsset.Store.moved_symbols]

section Balances

variable (hwho : who ≠ s.saving.collectionAccountId) (hshop : who ≠ s.saving.pawnShop)
  (hassets : s.saving.collateralAssetId ≠ s.saving.collectionAssetId)

include hassets

omit [Inhabited AccountId] in
/-- The first transfer is in another asset. -/
theorem free_collateralTaken (w : AccountId) :
    (s.collateralTaken who collateralAmount loanAmount).assets.free s.saving.collectionAssetId w =
      s.assets.free s.saving.collectionAssetId w :=
  GenericAsset.Store.free_moved_asset hassets.symm

include hwho in
omit [Inhabited AccountId] in
theorem free_withLoan_borrower :
    (s.withLoan who collateralAmount loanAmount).assets.free s.saving.collectionAssetId who =
      s.assets.free s.saving.collectionAssetId who + loanAmount :=
  (GenericAsset.Store.free_moved_to hwho.symm).trans (by rw [free_collateralTaken hassets])

include hwho in
omit [Inhabited AccountId] in
theorem free_withLoan_collection :
    (s.withLoan who collateralAmount loanAmount).assets.free s.saving.collectionAssetId
        s.saving.collectionAccountId =
      s.assets.free s.saving.collectionAssetId s.saving.collectionAccountId - loanAmount :=
  (GenericAsset.Store.free_moved_from hwho.symm).trans (by rw [free_collateralTaken hassets])

include hshop in
omit [Inhabited AccountId] in
theorem free_withLoan_given :
    (s.withLoan who collateralAmount loanAmount).assets.free s.saving.collateralAssetId who =
      s.assets.free s.saving.collateralAssetId who -
        (s.terms collateralAmount loanAmount).collateralAmount :=
  (GenericAsset.Store.free_moved_asset hassets).trans (GenericAsset.Store.free_moved_from hshop)

include hshop in
omit [Inhabited AccountId] in
theorem free_withLoan_shop :
    (s.withLoan who collateralAmount loanAmount).assets.free s.saving.collateralAssetId
        s.saving.pawnShop =
      s.assets.free s.saving.collateralAssetId s.saving.pawnShop +
        (s.terms collateralAmount loanAmount).collateralAmount :=
  (GenericAsset.Store.free_moved_asset hassets).trans (GenericAsset.Store.free_moved_to hshop)

end Balances

end NewLoan

/-! ### Repaying -/

variable (loan : Loan AccountId)

/-- The ledger after a loan's balance has been paid back. -/
def paidBack : GenericAsset.Store AccountId :=
  s.assets.moved s.saving.loanAssetId who s.saving.collectionAccountId loan.loanBalanceTotal

/-- **The state after a repayment.** -/
def repaid (loanId : LoanId) : RuntimeState AccountId :=
  { s with
    assets := (s.paidBack who loan).moved s.saving.collateralAssetId s.saving.pawnShop who
      loan.collateralBalanceOriginal
    saving := { s.saving with
      loansByAccount := s.saving.loansByAccount.mutate who fun v => v.filter (· ≠ loanId)
      loans := s.saving.loans.remove loan.id
      totalLoan := s.saving.totalLoan - loan.loanBalanceTotal
      totalCollateral := s.saving.totalCollateral - loan.collateralBalanceOriginal } }

/-- **The storage after a repayment has been reverted**: the counters, which the
repayment had not touched yet, are increased. -/
def repayReverted (loanId : LoanId) : DepositLoan.Store AccountId :=
  { s.saving with
    loans := s.saving.loans.insert loan.id loan
    loansByAccount := (s.saving.loansByAccount.mutate who fun v =>
      v.filter (· ≠ loanId)).mutate who fun v => v ++ [loan.id]
    totalLoan := s.saving.totalLoan + loan.loanBalanceTotal
    totalCollateral := s.saving.totalCollateral + loan.collateralBalanceAvailable }

/-- What a repayment checks before it writes anything. -/
structure CanTryRepay (loanId : LoanId) : Prop where
  found : s.saving.loans.containsKey loanId = true
  read : loan = s.saving.loans.get loanId
  owner : loan.who = who
  funded : loan.loanBalanceTotal ≤ s.assets.free s.saving.loanAssetId who
  shop : loan.collateralBalanceAvailable ≤
    s.assets.free s.saving.collateralAssetId s.saving.pawnShop
  notLiquidating : s.saving.checkLoanInLiquidation loanId = false

/-- Whether the pawn shop can hand out the collateral of a loan that has just been
paid back. -/
def CanReturn : Prop :=
  loan.collateralBalanceOriginal ≤
    (s.paidBack who loan).free s.saving.collateralAssetId s.saving.pawnShop

/-- **That a repayment does not overflow**: whoever receives something has room for it, and the
counters contain the loan. -/
structure RepayFits : Prop where
  back : who ≠ s.saving.collectionAccountId →
    (s.assets.free s.saving.loanAssetId s.saving.collectionAccountId).toNat +
      loan.loanBalanceTotal.toNat < 2 ^ 128
  returned : s.saving.pawnShop ≠ who →
    ((s.paidBack who loan).free s.saving.collateralAssetId who).toNat +
      loan.collateralBalanceOriginal.toNat < 2 ^ 128
  totalLoan : loan.loanBalanceTotal.toNat ≤ s.saving.totalLoan.toNat
  totalCollateral : loan.collateralBalanceOriginal.toNat ≤ s.saving.totalCollateral.toNat

/-- The ledgers a reverted repayment may leave: the payment has been returned, or
could not be. -/
inductive Returned : GenericAsset.Store AccountId → Prop
  | back (h : loan.loanBalanceTotal ≤
        (s.paidBack who loan).free s.saving.loanAssetId s.saving.collectionAccountId) :
      Returned ((s.paidBack who loan).moved s.saving.loanAssetId s.saving.collectionAccountId who
        loan.loanBalanceTotal)
  | kept (h : ¬loan.loanBalanceTotal ≤
        (s.paidBack who loan).free s.saving.loanAssetId s.saving.collectionAccountId) :
      Returned (s.paidBack who loan)

/-! ### Liquidation -/

/-- The penalty on the leftover of an auction. -/
def penalty (leftover : Balance) : Balance :=
  leftover * ofU32 s.saving.liquidationPenalty / 100

/-- The ledger after the penalty has been paid. -/
def penalized (leftover : Balance) : GenericAsset.Store AccountId :=
  s.assets.moved s.saving.loanAssetId s.saving.collectionAccountId s.saving.profitPool
    (s.penalty leftover)

/-- The ledger after a leftover has been shared out. -/
def sharedOut (leftover : Balance) : GenericAsset.Store AccountId :=
  (s.penalized leftover).moved s.saving.loanAssetId s.saving.collectionAccountId loan.who
    (leftover - s.penalty leftover)

/-- What sharing out a leftover checks. -/
structure CanShare (leftover : Balance) : Prop where
  penalty : s.penalty leftover ≤
    s.assets.free s.saving.loanAssetId s.saving.collectionAccountId
  rest : leftover - s.penalty leftover ≤
    (s.penalized leftover).free s.saving.loanAssetId s.saving.collectionAccountId

/-- The ledger after a penalty has been handed back. -/
def penaltyBack (liquidationAccount : AccountId) (leftover : Balance) :
    GenericAsset.Store AccountId :=
  (s.penalized leftover).moved s.saving.loanAssetId s.saving.profitPool liquidationAccount
    (s.penalty leftover)

/-- **The ledgers a failed liquidation may leave.** Where the penalty cannot be
paid, the pawn shop pays the liquidation account the balance of the loan; where
the rest cannot be paid, it gives away the collateral of the loan. -/
inductive NotShared (liquidationAccount : AccountId) (leftover : Balance) :
    GenericAsset.Store AccountId → Prop
  | penaltyKept (hp : ¬s.penalty leftover ≤
        s.assets.free s.saving.loanAssetId s.saving.collectionAccountId)
      (h : ¬loan.loanBalanceTotal ≤ s.assets.free s.saving.loanAssetId s.saving.pawnShop) :
      NotShared liquidationAccount leftover s.assets
  | penaltyShort (hp : ¬s.penalty leftover ≤
        s.assets.free s.saving.loanAssetId s.saving.collectionAccountId)
      (h : loan.loanBalanceTotal ≤ s.assets.free s.saving.loanAssetId s.saving.pawnShop) :
      NotShared liquidationAccount leftover
        (s.assets.moved s.saving.loanAssetId s.saving.pawnShop liquidationAccount
          loan.loanBalanceTotal)
  | restKept (hp : s.penalty leftover ≤
        s.assets.free s.saving.loanAssetId s.saving.collectionAccountId)
      (hr : ¬leftover - s.penalty leftover ≤
        (s.penalized leftover).free s.saving.loanAssetId s.saving.collectionAccountId)
      (h : ¬s.penalty leftover ≤
        (s.penalized leftover).free s.saving.loanAssetId s.saving.profitPool) :
      NotShared liquidationAccount leftover (s.penalized leftover)
  | restShort (hp : s.penalty leftover ≤
        s.assets.free s.saving.loanAssetId s.saving.collectionAccountId)
      (hr : ¬leftover - s.penalty leftover ≤
        (s.penalized leftover).free s.saving.loanAssetId s.saving.collectionAccountId)
      (h : s.penalty leftover ≤
        (s.penalized leftover).free s.saving.loanAssetId s.saving.profitPool)
      (hc : ¬loan.collateralBalanceOriginal ≤
        (s.penaltyBack liquidationAccount leftover).free s.saving.collateralAssetId
          s.saving.pawnShop) :
      NotShared liquidationAccount leftover (s.penaltyBack liquidationAccount leftover)
  | collateralGiven (hp : s.penalty leftover ≤
        s.assets.free s.saving.loanAssetId s.saving.collectionAccountId)
      (hr : ¬leftover - s.penalty leftover ≤
        (s.penalized leftover).free s.saving.loanAssetId s.saving.collectionAccountId)
      (h : s.penalty leftover ≤
        (s.penalized leftover).free s.saving.loanAssetId s.saving.profitPool)
      (hc : loan.collateralBalanceOriginal ≤
        (s.penaltyBack liquidationAccount leftover).free s.saving.collateralAssetId
          s.saving.pawnShop) :
      NotShared liquidationAccount leftover
        ((s.penaltyBack liquidationAccount leftover).moved s.saving.collateralAssetId
          s.saving.pawnShop liquidationAccount loan.collateralBalanceOriginal)

/-- The state after the balance of a loan has been paid from an auction. -/
def sold (liquidationAccount : AccountId) : RuntimeState AccountId :=
  { s with assets := s.paidBack liquidationAccount loan }

/-- The ledger after a liquidation. -/
def settled (liquidationAccount : AccountId) (auctionBalance : Balance) :
    GenericAsset.Store AccountId :=
  if 0 < auctionBalance - loan.loanBalanceTotal then
    (s.sold loan liquidationAccount).sharedOut loan (auctionBalance - loan.loanBalanceTotal)
  else (s.sold loan liquidationAccount).assets

/-- **The state after a liquidation.** The counters stay as they are. -/
def liquidated (liquidationAccount : AccountId) (auctionBalance : Balance) :
    RuntimeState AccountId :=
  { s with
    assets := s.settled loan liquidationAccount auctionBalance
    saving := { s.saving with
      loans := s.saving.loans.remove loan.id
      loansByAccount :=
        s.saving.loansByAccount.mutate loan.who fun v => v.filter (· ≠ loan.id)
      liquidatingLoans := some (s.saving.inLiquidation.filter (· ≠ loan.id)) } }

/-- What a liquidation checks before it writes anything. -/
structure CanTryLiquidate (liquidationAccount : AccountId) (auctionBalance : Balance) : Prop where
  liquidating : s.saving.checkLoanInLiquidation loan.id = true
  funded : auctionBalance ≤ s.assets.free s.saving.loanAssetId liquidationAccount
  enough : loan.loanBalanceTotal ≤ auctionBalance

/-- Whether what an auction brought beyond the loan can be shared out. -/
def CanSettle (liquidationAccount : AccountId) (auctionBalance : Balance) : Prop :=
  0 < auctionBalance - loan.loanBalanceTotal →
    (s.sold loan liquidationAccount).CanShare (auctionBalance - loan.loanBalanceTotal)

/-! ### Collateral and draws -/

/-- **The state after collateral is added.** What moves is the collection asset. -/
def collateralAdded (sender : AccountId) (amount : Balance) : RuntimeState AccountId :=
  let l := s.saving.loans.get loan.id
  { s with
    assets := s.assets.moved s.saving.collectionAssetId sender s.saving.pawnShop amount
    saving := { s.saving with
      loans := s.saving.loans.insert loan.id
        { l with
          collateralBalanceOriginal := l.collateralBalanceOriginal + amount
          collateralBalanceAvailable := l.collateralBalanceAvailable + amount }
      totalCollateral := s.saving.totalCollateral + amount } }

/-- The price and the limit as a draw uses them, cast to a `u32`. -/
def drawPrice : Balance := ofU32 (asU32 s.btcPrice)

/-- What may be drawn on a loan. -/
def credit : Balance :=
  loan.collateralBalanceAvailable * s.drawPrice * ofU32 (asU32 s.saving.globalLTVLimit)
    / ofU32 ltvPrec / ofU32 pricePrec

/-- **The state after a draw.** Nothing is paid out. -/
def drawn (loanId : LoanId) (amount : Balance) : RuntimeState AccountId :=
  let l := s.saving.loans.get loanId
  { s with
    saving := { s.saving with
      loans := s.saving.loans.insert loanId
        { l with
          loanBalanceTotal := l.loanBalanceTotal + amount
          collateralBalanceAvailable := l.collateralBalanceAvailable - amount / s.drawPrice }
      totalLoan := s.saving.totalLoan + amount } }

/-- What a draw checks. -/
structure CanDraw (loanId : LoanId) (amount : Balance) : Prop where
  found : s.saving.loans.containsKey loanId = true
  owner : (s.saving.loans.get loanId).who = who
  covered : amount ≤ s.credit (s.saving.loans.get loanId)
  price : s.drawPrice ≠ 0

end RuntimeState

namespace DepositLoan

open RuntimeState

variable {s : RuntimeState AccountId} {who : AccountId}

section Rules

variable {Q : Unit → RuntimeState AccountId → Prop}
  {E : DispatchError → RuntimeState AccountId → Prop} {P : Prop} {amount : Balance}

omit [DecidableEq AccountId] [Inhabited AccountId] in
@[simp] theorem wp_addTotalLoan :
    wp (addTotalLoan amount : Prog β AccountId Unit) Q E P s ↔
      (¬(β.sums = true → s.saving.totalLoan.toNat + amount.toNat < 2 ^ 128) → P) ∧
        ((β.sums = true → s.saving.totalLoan.toNat + amount.toNat < 2 ^ 128) →
          Q () (s.withSaving fun t => { t with totalLoan := s.saving.totalLoan + amount })) := by
  simp only [addTotalLoan, wp_bind, wp_gets, wp_add, wp_modify]

omit [DecidableEq AccountId] [Inhabited AccountId] in
@[simp] theorem wp_subTotalLoan :
    wp (subTotalLoan amount : Prog β AccountId Unit) Q E P s ↔
      (¬(β.sums = true → amount.toNat ≤ s.saving.totalLoan.toNat) → P) ∧
        ((β.sums = true → amount.toNat ≤ s.saving.totalLoan.toNat) →
          Q () (s.withSaving fun t => { t with totalLoan := s.saving.totalLoan - amount })) := by
  simp only [subTotalLoan, wp_bind, wp_gets, wp_sub, wp_modify]

omit [DecidableEq AccountId] [Inhabited AccountId] in
@[simp] theorem wp_addTotalCollateral :
    wp (addTotalCollateral amount : Prog β AccountId Unit) Q E P s ↔
      (¬(β.sums = true → s.saving.totalCollateral.toNat + amount.toNat < 2 ^ 128) → P) ∧
        ((β.sums = true → s.saving.totalCollateral.toNat + amount.toNat < 2 ^ 128) →
          Q () (s.withSaving fun t =>
            { t with totalCollateral := s.saving.totalCollateral + amount })) := by
  simp only [addTotalCollateral, wp_bind, wp_gets, wp_add, wp_modify]

omit [DecidableEq AccountId] [Inhabited AccountId] in
@[simp] theorem wp_subTotalCollateral :
    wp (subTotalCollateral amount : Prog β AccountId Unit) Q E P s ↔
      (¬(β.sums = true → amount.toNat ≤ s.saving.totalCollateral.toNat) → P) ∧
        ((β.sums = true → amount.toNat ≤ s.saving.totalCollateral.toNat) →
          Q () (s.withSaving fun t =>
            { t with totalCollateral := s.saving.totalCollateral - amount })) := by
  simp only [subTotalCollateral, wp_bind, wp_gets, wp_sub, wp_modify]

omit [DecidableEq AccountId] [Inhabited AccountId] in
@[simp] theorem wp_getNextLoanId {Q : LoanId → RuntimeState AccountId → Prop} :
    wp (getNextLoanId : Prog β AccountId LoanId) Q E P s ↔
      (¬(β.sums = true → s.saving.nextLoanId.toNat + (1 : LoanId).toNat < 2 ^ 64) → P) ∧
        ((β.sums = true → s.saving.nextLoanId.toNat + (1 : LoanId).toNat < 2 ^ 64) →
          Q s.saving.nextLoanId
            (s.withSaving fun t => { t with nextLoanId := s.saving.nextLoanId + 1 })) := by
  simp only [getNextLoanId, wp_bind, wp_gets, wp_add, wp_modify, wp_pure]

end Rules

/-! ### Applying -/

variable {collateralAmount loanAmount : Balance}

omit [DecidableEq AccountId] [Inhabited AccountId] in
/-- The terms of a loan are computed without a write. -/
theorem getCollateralLoan_spec :
    wp (getCollateralLoan collateralAmount loanAmount : Prog β AccountId CollateralLoan)
      (fun r s' => s.CanGrant β collateralAmount loanAmount ∧
        r = s.terms collateralAmount loanAmount ∧ s' = s)
      (fun _ s' => s' = s) True s := by
  simp only [getCollateralLoan, wp_bind, wp_gets, wp_ensure, wp_ite, wp_mul, wp_div, wp_pure,
    imp_true_iff, true_and, and_true]
  refine fun hask => ⟨fun hc h1 h2 h3 hd => ?_, fun hc => ⟨fun hl h1 h2 _ _ => ?_,
    fun hl h1 h2 h3 hd hlt => ?_⟩⟩
  · refine ⟨⟨hask, fun _ => ⟨hd, fun hp => ⟨h1 hp, h2 hp, h3 hp⟩⟩, fun h => absurd hc h,
      fun h => absurd hc h⟩, ?_⟩
    simp only [terms, hc, if_true, price, limit]
  · refine ⟨⟨hask, fun h => absurd h hc, fun _ _ hp => ⟨h1 hp, h2 hp⟩,
      fun _ h => absurd hl h⟩, ?_⟩
    simp only [terms, hc, hl, if_true, if_false, price, limit]
  · refine ⟨⟨hask, fun h => absurd h hc, fun _ h => absurd h hl,
      fun _ _ => ⟨hd, hlt, fun hp => ⟨h1 hp, h2 hp, h3 hp⟩⟩⟩, ?_⟩
    simp only [terms, hc, hl, if_false]

omit [Inhabited AccountId] in
/-- **Applying for a loan** succeeds with the loan, or fails without a trace, or
fails with the collateral gone and an id used up. -/
theorem applyForLoan_spec :
    wp (applyForLoan who collateralAmount loanAmount : Prog β AccountId Unit)
      (fun _ s' => s.CanApply β who collateralAmount loanAmount ∧
        s' = s.withLoan who collateralAmount loanAmount)
      (fun _ s' => s' = s ∨
        (s.terms collateralAmount loanAmount).collateralAmount ≤
            s.assets.free s.saving.collateralAssetId who ∧
          ¬loanAmount ≤ (s.collateralTaken who collateralAmount loanAmount).cash ∧
          s' = s.collateralTaken who collateralAmount loanAmount) True s := by
  simp only [applyForLoan, wp_bind, wp_gets, wp_ensure]
  simp only [true_or, imp_true_iff, and_true]
  refine fun hfund hcap => ?_
  refine wp_mono getCollateralLoan_spec ?_ (fun _ _ h => Or.inl h) id
  rintro r _ ⟨hgrant, rfl, rfl⟩
  simp only [wp_makeTransferWithEvent, wp_getNextLoanId, wp_div, wp_sub, wp_modify,
    wp_addTotalLoan, wp_addTotalCollateral, imp_true_iff, true_and, and_true, true_or]
  refine fun hmin hcov _ _ hprice havail => ⟨fun hpaid _ hloan hcoll => ?_,
    fun hpaid => Or.inr ⟨hcov, hpaid, rfl⟩⟩
  exact ⟨⟨hfund, hcap, hgrant, hmin, hcov, hprice, havail, hpaid, hloan, hcoll⟩, rfl⟩

omit [DecidableEq AccountId] [Inhabited AccountId] in
/-- Terms that can be computed are computed. -/
theorem getCollateralLoan_ok (h : s.CanGrant .release collateralAmount loanAmount) :
    wp (getCollateralLoan collateralAmount loanAmount : Prog .release AccountId CollateralLoan)
      (fun r s' => r = s.terms collateralAmount loanAmount ∧ s' = s)
      (fun _ _ => False) False s := by
  have hprec : ofU32 ltvPrec * ofU32 pricePrec ≠ 0 := by decide
  simp only [getCollateralLoan, wp_bind, wp_gets, wp_ensure, wp_ite, wp_mul, wp_div, wp_pure,
    Bool.false_eq_true, false_imp_iff, not_true_eq_false, true_imp_iff, true_and]
  refine ⟨fun _ => ⟨fun hc => ?_, fun hc => ⟨fun hl => ?_, fun hl => ?_⟩⟩, fun hno => hno h.asked⟩
  · refine ⟨fun hno => hno (h.byLoan hc).1, fun _ => ⟨?_, trivial⟩⟩
    simp only [terms, hc, if_true, price, limit]
  · refine ⟨fun hno => hno hprec, fun _ => ⟨?_, trivial⟩⟩
    simp only [terms, hc, hl, if_true, if_false, price, limit]
  · refine ⟨fun hno => hno (h.both hc hl).1, fun _ => ⟨fun _ => ⟨?_, trivial⟩,
      fun hno => hno (h.both hc hl).2.1⟩⟩
    simp only [terms, hc, hl, if_false]

omit [Inhabited AccountId] in
/-- **An application that passes its checks succeeds.** -/
theorem applyForLoan_ok (h : s.CanApply .release who collateralAmount loanAmount) :
    (applyForLoan who collateralAmount loanAmount : Prog .release AccountId Unit) s =
      .ok () (s.withLoan who collateralAmount loanAmount) := by
  refine eq_ok_of_wp ?_
  simp only [applyForLoan, wp_bind, wp_gets, wp_ensure]
  refine ⟨fun _ => ⟨fun _ => ?_, fun hno => hno h.capped⟩, fun hno => hno h.funded⟩
  refine wp_mono (getCollateralLoan_ok h.granted) ?_ (fun _ _ h => h) id
  rintro r _ ⟨rfl, rfl⟩
  simp only [wp_makeTransferWithEvent, wp_getNextLoanId, wp_div, wp_sub, wp_modify,
    wp_addTotalLoan, wp_addTotalCollateral, Bool.false_eq_true, false_imp_iff, not_true_eq_false,
    true_imp_iff, true_and]
  refine ⟨fun _ => ⟨fun _ => ⟨fun hno => hno h.price, fun _ => ⟨fun _ => rfl,
    fun hno => hno h.paid⟩⟩, fun hno => hno h.covered⟩, fun hno => hno h.minimum⟩

/-! ### Repaying -/

variable {loanId : LoanId} {loan : Loan AccountId}

omit [Inhabited AccountId] in
/-- The rule of the callback of a failed repayment. -/
theorem wp_revertCallback {Q : Unit → RuntimeState AccountId → Prop}
    {E : DispatchError → RuntimeState AccountId → Prop}
    (hQ : Q () (s.withSaving fun t => { t with
      loans := t.loans.insert loan.id loan
      loansByAccount := t.loansByAccount.mutate who fun v => v ++ [loan.id]
      totalLoan := t.totalLoan + loan.loanBalanceTotal
      totalCollateral := t.totalCollateral + loan.collateralBalanceAvailable })) :
    wp (revertCallback who loan : Prog β AccountId Unit) Q E True s := by
  simp only [revertCallback, wp_bind, wp_modify, wp_addTotalLoan, wp_addTotalCollateral,
    imp_true_iff, true_and]
  exact fun _ _ => hQ

/-- **Repaying** succeeds in the repaid state, fails without a trace, or – if it has passed its
checks – fails with the repayment reverted. -/
theorem repayForLoan_spec (hloan : loan = s.saving.loans.get loanId) :
    wp (repayForLoan who loanId : Prog β AccountId Unit)
      (fun _ s' => s.CanTryRepay who loan loanId ∧ s.CanReturn who loan ∧
        s' = s.repaid who loan loanId)
      (fun _ s' => ¬s.CanTryRepay who loan loanId ∧ s' = s ∨
        s.CanTryRepay who loan loanId ∧ ¬s.CanReturn who loan ∧
        ∃ a, s.Returned who loan a ∧
          s' = { s with assets := a, saving := s.repayReverted who loan loanId }) True s := by
  simp only [repayForLoan, wp_bind, wp_gets, wp_ensure, ← hloan, and_true]
  refine ⟨fun hfound => ⟨fun howner => ⟨fun hfund => ⟨fun hshop => ⟨fun hliq => ?_, ?_⟩, ?_⟩, ?_⟩,
    ?_⟩, ?_⟩
  case refine_2 => exact fun hno => Or.inl fun h => hno h.notLiquidating
  case refine_3 => exact fun hno => Or.inl fun h => hno h.shop
  case refine_4 => exact fun hno => Or.inl fun h => hno h.funded
  case refine_5 => exact fun hno => Or.inl fun h => hno h.owner
  case refine_6 => exact fun hno => Or.inl fun h => hno h.found
  have htry : s.CanTryRepay who loan loanId := ⟨hfound, hloan, howner, hfund, hshop, hliq⟩
  simp only [wp_modify, wp_bind, wp_orElse, wp_makeTransferWithEvent, imp_true_iff, true_and, hfund,
    not_true_eq_false, false_imp_iff, and_true, forall_const]
  refine fun _ => ⟨fun hret _ => ?_, fun hret => ?_⟩
  · simp only [wp_subTotalLoan, wp_subTotalCollateral, imp_true_iff, true_and]
    exact fun _ _ => ⟨htry, hret, rfl⟩
  · refine wp_revertCallback ?_
    simp only [wp_fail]
    refine ⟨fun hback _ => Or.inr ⟨htry, hret, _, .back hback, rfl⟩, fun hback => ?_⟩
    exact Or.inr ⟨htry, hret, _, .kept hback, rfl⟩

/-- **A repayment that passes its checks**, and whose collateral is there, goes through – in a build
that checks sums, if none of them overflows. -/
theorem repayForLoan_ok (htry : s.CanTryRepay who loan loanId) (hret : s.CanReturn who loan)
    (hfits : β.sums = true → s.RepayFits who loan) :
    (repayForLoan who loanId : Prog β AccountId Unit) s = .ok () (s.repaid who loan loanId) := by
  refine eq_ok_of_wp ?_
  simp only [repayForLoan, wp_bind, wp_gets, wp_ensure, ← htry.read, htry.found, htry.owner,
    htry.notLiquidating, not_true_eq_false, false_imp_iff, true_imp_iff, and_true]
  refine ⟨fun hfund => ⟨fun _ => ?_, fun hno => hno htry.shop⟩, fun hno => hno htry.funded⟩
  simp only [wp_modify, wp_orElse, wp_makeTransferWithEvent]
  refine ⟨fun _ => ⟨fun hno => hno fun h => (hfits h).back, fun _ => ?_⟩,
    fun hno => absurd hfund hno⟩
  refine ⟨fun _ => ⟨fun hno => hno fun h => (hfits h).returned, fun _ => ?_⟩,
    fun hno => absurd hret hno⟩
  simp only [wp_subTotalLoan, wp_subTotalCollateral]
  exact ⟨fun hno => hno fun h => (hfits h).totalLoan,
    fun _ => ⟨fun hno => hno fun h => (hfits h).totalCollateral, fun _ => rfl⟩⟩

/-! ### Liquidation -/

variable {liquidationAccount : AccountId} {leftover auctionBalance amount : Balance}

omit [Inhabited AccountId] in
/-- **Sharing out a leftover** touches the ledger only. -/
theorem shareLeftover_spec :
    wp (shareLeftover loan liquidationAccount leftover : Prog β AccountId Unit)
      (fun _ s' => s.CanShare leftover ∧ s' = { s with assets := s.sharedOut loan leftover })
      (fun _ s' => ¬s.CanShare leftover ∧
        ∃ a, s.NotShared loan liquidationAccount leftover a ∧ s' = { s with assets := a })
      True s := by
  simp only [shareLeftover, wp_bind, wp_gets, wp_mul, wp_div, wp_orElse,
    wp_makeTransferWithEvent, wp_sub, wp_fail, imp_true_iff, true_and]
  refine fun _ _ => ⟨fun hp _ _ => ⟨fun hr _ => ?_, fun hr => ⟨fun h _ => ⟨fun hc _ => ?_,
    fun hc => ?_⟩, fun h => ?_⟩⟩, fun hp => ⟨fun h _ => ?_, fun h => ?_⟩⟩
  · exact ⟨⟨hp, hr⟩, rfl⟩
  · exact ⟨fun hcan => hr hcan.rest, _, .collateralGiven hp hr h hc, rfl⟩
  · exact ⟨fun hcan => hr hcan.rest, _, .restShort hp hr h hc, rfl⟩
  · exact ⟨fun hcan => hr hcan.rest, _, .restKept hp hr h, rfl⟩
  · exact ⟨fun hcan => hp hcan.penalty, _, .penaltyShort hp h, rfl⟩
  · exact ⟨fun hcan => hp hcan.penalty, _, .penaltyKept hp h, rfl⟩

omit [Inhabited AccountId] in
/-- **Closing a liquidated loan** succeeds in the liquidated state, fails without a
trace, or – if it has passed its checks – fails after the balance of the loan has been paid. -/
theorem markLoanLiquidated_spec :
    wp (markLoanLiquidated loan liquidationAccount auctionBalance : Prog β AccountId Unit)
      (fun _ s' => s.CanTryLiquidate loan liquidationAccount auctionBalance ∧
        s.CanSettle loan liquidationAccount auctionBalance ∧
        s' = s.liquidated loan liquidationAccount auctionBalance)
      (fun _ s' => ¬s.CanTryLiquidate loan liquidationAccount auctionBalance ∧ s' = s ∨
        s.CanTryLiquidate loan liquidationAccount auctionBalance ∧
        ¬s.CanSettle loan liquidationAccount auctionBalance ∧
        ∃ a, (s.sold loan liquidationAccount).NotShared loan liquidationAccount
            (auctionBalance - loan.loanBalanceTotal) a ∧ s' = { s with assets := a }) True s := by
  simp only [markLoanLiquidated, wp_bind, wp_gets, wp_ensure, wp_makeTransferWithEvent, wp_modify,
    imp_true_iff, and_true, true_and]
  refine ⟨fun hliq => ⟨fun hfund => ⟨fun hle => ⟨fun hcov _ => ?_, ?_⟩, ?_⟩, ?_⟩, ?_⟩
  case refine_2 => exact fun hno => absurd (BitVec.le_trans hle hfund) hno
  case refine_3 => exact fun hno => Or.inl fun h => hno h.enough
  case refine_4 => exact fun hno => Or.inl fun h => hno h.funded
  case refine_5 => exact fun hno => Or.inl fun h => hno h.liquidating
  have htry : s.CanTryLiquidate loan liquidationAccount auctionBalance := ⟨hliq, hfund, hle⟩
  have hsub : checkedSub auctionBalance loan.loanBalanceTotal =
      some (auctionBalance - loan.loanBalanceTotal) :=
    checkedSub_eq_some.mpr ⟨BitVec.le_def.mp hle, rfl⟩
  rw [hsub, settleLeftover]
  simp only [wp_ite, wp_pure]
  refine ⟨fun hpos => ?_, fun hpos => ⟨htry, fun h => absurd h hpos, ?_⟩⟩
  · refine wp_mono shareLeftover_spec ?_ ?_ id
    · rintro _ _ ⟨hshare, rfl⟩
      refine ⟨htry, fun _ => hshare, ?_⟩
      simp only [liquidated, settled, hpos, if_true, sold]
      rfl
    · rintro _ _ ⟨hshare, a, ha, rfl⟩
      exact Or.inr ⟨htry, fun h => hshare (h hpos), a, ha, rfl⟩
  · simp only [liquidated, settled, hpos, if_false, sold]
    rfl

/-! ### Collateral and draws -/

/-- **Adding collateral** succeeds or fails without a trace. -/
theorem addLoanCollateral_spec {sender : AccountId} :
    wp (addLoanCollateral loan sender amount : Prog β AccountId Unit)
      (fun _ s' => amount ≤ s.assets.free s.saving.collectionAssetId sender ∧
        s' = s.collateralAdded loan sender amount)
      (fun _ s' => s' = s) True s := by
  simp only [addLoanCollateral, wp_bind, wp_gets, wp_ensure, wp_makeTransferWithEvent, wp_add,
    wp_modify, wp_addTotalCollateral, imp_true_iff, true_and, and_true]
  exact fun hcov _ _ _ _ _ => ⟨hcov, rfl⟩

/-- **Drawing** succeeds or fails without a trace. -/
theorem drawFromLoan_spec :
    wp (drawFromLoan who loanId amount : Prog β AccountId Unit)
      (fun _ s' => s.CanDraw who loanId amount ∧ s' = s.drawn loanId amount)
      (fun _ s' => s' = s) True s := by
  simp only [drawFromLoan, wp_bind, wp_gets, wp_ensure, wp_mul, wp_add, wp_sub, wp_div, wp_modify,
    wp_addTotalLoan, imp_true_iff, true_and, and_true]
  intro hfound howner _ _ _ _ hle _ hprice _ _
  refine ⟨⟨hfound, howner, hle, hprice⟩, ?_⟩
  simp only [drawn, withSaving, StorageMap.insert_insert, StorageMap.get_insert, if_true]
  rfl

end DepositLoan

end MoneyPool
