import MoneyPool.RuntimeState

/-!
# Loans

Applying for a loan, repaying it, drawing on it, adding collateral and closing it
after a liquidation. Every operation writes several records by hand; where one of
them fails halfway, what it undoes is what the source undoes, and an error undoes
nothing else.
-/

namespace MoneyPool

namespace DepositLoan

open Pallet Pallet.Exec RuntimeState

variable {AccountId : Type} [DecidableEq AccountId] [Inhabited AccountId] {β : Build}

/-! ### Loan-to-value -/

/-- `Loan::get_ltv`. -/
def getLtv (collateralAmount loanAmount : Balance) (btcPrice : PriceInUSDT) :
    Prog β AccountId LTV := do
  let n ← mul loanAmount (ofU32 pricePrec)
  let n ← mul n (ofU32 ltvPrec)
  let d ← mul collateralAmount (ofU64 btcPrice)
  let ltv ← div n d
  unwrap (tryInto 64 ltv)

/-- The health of a loan at a price. -/
def checkLoanHealth (loan : Loan AccountId) (btcPrice : PriceInUSDT) (liquidation warning : LTV) :
    Prog β AccountId LoanHealth := do
  let currentLtv ← getLtv loan.collateralBalanceAvailable loan.loanBalanceTotal btcPrice
  pure (if liquidation ≤ currentLtv then .liquidating currentLtv
    else if warning ≤ currentLtv then .warning currentLtv
    else .well)

/-! ### The counters -/

/-- `TotalLoan += amount`. -/
def addTotalLoan (amount : Balance) : Prog β AccountId Unit := do
  let v ← add (← gets fun s => s.saving.totalLoan) amount
  modify (withSaving fun t => { t with totalLoan := v })

/-- `TotalLoan -= amount`. -/
def subTotalLoan (amount : Balance) : Prog β AccountId Unit := do
  let v ← sub (← gets fun s => s.saving.totalLoan) amount
  modify (withSaving fun t => { t with totalLoan := v })

/-- `TotalCollateral += amount`. -/
def addTotalCollateral (amount : Balance) : Prog β AccountId Unit := do
  let v ← add (← gets fun s => s.saving.totalCollateral) amount
  modify (withSaving fun t => { t with totalCollateral := v })

/-- `TotalCollateral -= amount`. -/
def subTotalCollateral (amount : Balance) : Prog β AccountId Unit := do
  let v ← sub (← gets fun s => s.saving.totalCollateral) amount
  modify (withSaving fun t => { t with totalCollateral := v })

/-- The id of the next loan, which is used up. -/
def getNextLoanId : Prog β AccountId LoanId := do
  let org ← gets fun s => s.saving.nextLoanId
  let next ← add org 1
  modify (withSaving fun t => { t with nextLoanId := next })
  pure org

/-! ### Applying for a loan -/

/-- The terms of a loan: what is asked for, with a zero filled in at the limit. -/
def getCollateralLoan (collateralAmount loanAmount : Balance) :
    Prog β AccountId CollateralLoan := do
  ensure (¬(collateralAmount = 0 ∧ loanAmount = 0)) (.depositLoan .invalidCollateralLoanAmounts)
  let btcPriceInBalance ← gets fun s => ofU64 s.btcPrice
  let ltvInBalance ← gets fun s => ofU64 s.saving.globalLTVLimit
  if collateralAmount = 0 then do
    let n ← mul loanAmount (ofU32 ltvPrec)
    let n ← mul n (ofU32 pricePrec)
    let d ← mul btcPriceInBalance ltvInBalance
    let mustCollateralAmount ← div n d
    pure { collateralAmount := mustCollateralAmount, loanAmount := loanAmount }
  else if loanAmount = 0 then do
    let n ← mul collateralAmount btcPriceInBalance
    let n ← mul n ltvInBalance
    let d ← mul (ofU32 ltvPrec) (ofU32 pricePrec)
    let canLoanAmount ← div n d
    pure { collateralAmount := collateralAmount, loanAmount := canLoanAmount }
  else do
    let n ← mul loanAmount (ofU32 ltvPrec)
    let n ← mul n (ofU32 pricePrec)
    let d ← mul collateralAmount btcPriceInBalance
    let ltv ← div n d
    ensure (ltv < ltvInBalance) (.depositLoan .overLTVLimit)
    pure { collateralAmount := collateralAmount, loanAmount := loanAmount }

/-- Apply for a loan. -/
def applyForLoan (who : AccountId) (collateralAmount loanAmount : Balance) :
    Prog β AccountId Unit := do
  let collectionAssetId ← gets fun s => s.saving.collectionAssetId
  let collectionAccountId ← gets fun s => s.saving.collectionAccountId
  ensure (loanAmount ≤ (← gets fun s => s.assets.free collectionAssetId collectionAccountId))
    (.other "Not enough to loan")
  let btcPrice ← gets fun s => s.btcPrice
  let collateralAssetId ← gets fun s => s.saving.collateralAssetId
  let shop ← gets fun s => s.saving.pawnShop
  let loanCap ← gets fun s => s.saving.loanCap
  let totalLoan ← gets fun s => s.saving.totalLoan
  ensure (¬(loanCap.isSome = true ∧ loanCap.getD 0 ≤ totalLoan)) (.depositLoan .reachLoanCap)
  let actual ← getCollateralLoan collateralAmount loanAmount
  ensure ((← gets fun s => s.saving.minimumCollateral) ≤ collateralAmount)
    (.other "not reach min collateral amount")
  makeTransferWithEvent collateralAssetId who shop actual.collateralAmount
  let loanId ← getNextLoanId
  let locked ← div loanAmount (ofU64 btcPrice)
  let collateralBalanceAvailable ← sub actual.collateralAmount locked
  let loan : Loan AccountId :=
    { id := loanId
      who := who
      collateralBalanceOriginal := actual.collateralAmount
      collateralBalanceAvailable := collateralBalanceAvailable
      loanBalanceTotal := actual.loanAmount
      status := default }
  makeTransferWithEvent collectionAssetId collectionAccountId who loanAmount
  modify (withSaving fun t => { t with loans := t.loans.insert loanId loan })
  modify (withSaving fun t =>
    { t with loansByAccount := t.loansByAccount.mutate who fun v => v ++ [loanId] })
  addTotalLoan actual.loanAmount
  addTotalCollateral actual.collateralAmount

/-! ### Repaying -/

/-- Whether a loan is in liquidation. -/
def Store.checkLoanInLiquidation (s : Store AccountId) (loanId : LoanId) : Bool :=
  s.inLiquidation.contains loanId

/-- What `repay_for_loan` runs when one of its transfers fails. -/
def revertCallback (who : AccountId) (loan : Loan AccountId) : Prog β AccountId Unit := do
  modify (withSaving fun t => { t with loans := t.loans.insert loan.id loan })
  modify (withSaving fun t =>
    { t with loansByAccount := t.loansByAccount.mutate who fun v => v ++ [loan.id] })
  addTotalLoan loan.loanBalanceTotal
  addTotalCollateral loan.collateralBalanceAvailable

/-- Repay a loan. -/
def repayForLoan (who : AccountId) (loanId : LoanId) : Prog β AccountId Unit := do
  let loanAssetId ← gets fun s => s.saving.loanAssetId
  let collateralAssetId ← gets fun s => s.saving.collateralAssetId
  let collectionAccountId ← gets fun s => s.saving.collectionAccountId
  let pawnShop ← gets fun s => s.saving.pawnShop
  ensure ((← gets fun s => s.saving.loans.containsKey loanId) = true) (.other "invalid loan id")
  let loan ← gets fun s => s.saving.loans.get loanId
  ensure (loan.who = who) (.other "not owner of the loan")
  ensure (loan.loanBalanceTotal ≤ (← gets fun s => s.assets.free loanAssetId who))
    (.other "not enough asset to repay")
  ensure (loan.collateralBalanceAvailable ≤
      (← gets fun s => s.assets.free collateralAssetId pawnShop))
    (.other "not enough collateral asset in shop")
  ensure ((← gets fun s => s.saving.checkLoanInLiquidation loanId) = false)
    (.other "loan is in liquidation")
  modify (withSaving fun t =>
    { t with loansByAccount := t.loansByAccount.mutate who fun v => v.filter (· ≠ loanId) })
  orElse (makeTransferWithEvent loanAssetId who collectionAccountId loan.loanBalanceTotal)
    fun err => do
      revertCallback who loan
      fail err
  orElse (makeTransferWithEvent collateralAssetId pawnShop who loan.collateralBalanceOriginal)
    fun err => do
      revertCallback who loan
      makeTransferWithEvent loanAssetId collectionAccountId who loan.loanBalanceTotal
      fail err
  modify (withSaving fun t => { t with loans := t.loans.remove loan.id })
  subTotalLoan loan.loanBalanceTotal
  subTotalCollateral loan.collateralBalanceOriginal

/-! ### Liquidation -/

/-- Share out what an auction brought beyond the loan: a penalty to the profits,
the rest to the owner of the loan. -/
def shareLeftover (loan : Loan AccountId) (liquidationAccount : AccountId) (leftover : Balance) :
    Prog β AccountId Unit := do
  let pawnshop ← gets fun s => s.saving.pawnShop
  let collateralAssetId ← gets fun s => s.saving.collateralAssetId
  let collectionAccountId ← gets fun s => s.saving.collectionAccountId
  let loanAssetId ← gets fun s => s.saving.loanAssetId
  let penaltyRate ← gets fun s => s.saving.liquidationPenalty
  let penalty ← mul leftover (ofU32 penaltyRate)
  let penalty ← div penalty 100
  let profitPool ← gets fun s => s.saving.profitPool
  orElse (makeTransferWithEvent loanAssetId collectionAccountId profitPool penalty)
    fun err => do
      makeTransferWithEvent loanAssetId pawnshop liquidationAccount loan.loanBalanceTotal
      fail err
  let rest ← sub leftover penalty
  orElse (makeTransferWithEvent loanAssetId collectionAccountId loan.who rest)
    fun err => do
      makeTransferWithEvent loanAssetId profitPool liquidationAccount penalty
      makeTransferWithEvent collateralAssetId pawnshop liquidationAccount
        loan.collateralBalanceOriginal
      fail err

/-- Share out the leftover of an auction, if there is any. -/
def settleLeftover (loan : Loan AccountId) (liquidationAccount : AccountId) :
    Option Balance → Prog β AccountId Unit
  | some leftover =>
    if 0 < leftover then shareLeftover loan liquidationAccount leftover else pure ()
  | none => pure ()

/-- Close a loan whose collateral has been sold. -/
def markLoanLiquidated (loan : Loan AccountId) (liquidationAccount : AccountId)
    (auctionBalance : Balance) : Prog β AccountId Unit := do
  ensure ((← gets fun s => s.saving.checkLoanInLiquidation loan.id) = true)
    (.other "loan id not in liquidating")
  let collectionAccountId ← gets fun s => s.saving.collectionAccountId
  let loanAssetId ← gets fun s => s.saving.loanAssetId
  ensure (auctionBalance ≤ (← gets fun s => s.assets.free loanAssetId liquidationAccount))
    (.other "not enough asset to liquidate")
  ensure (loan.loanBalanceTotal ≤ auctionBalance) (.other "Not enough for loan liquidate")
  makeTransferWithEvent loanAssetId liquidationAccount collectionAccountId loan.loanBalanceTotal
  settleLeftover loan liquidationAccount (checkedSub auctionBalance loan.loanBalanceTotal)
  modify (withSaving fun t => { t with loans := t.loans.remove loan.id })
  modify (withSaving fun t =>
    { t with loansByAccount := t.loansByAccount.mutate loan.who fun v => v.filter (· ≠ loan.id) })
  modify (withSaving fun t =>
    { t with liquidatingLoans := some (t.inLiquidation.filter (· ≠ loan.id)) })

/-! ### Collateral and draws -/

/-- Add collateral to a loan. -/
def addLoanCollateral (loan : Loan AccountId) (sender : AccountId) (amount : Balance) :
    Prog β AccountId Unit := do
  let pawnshop ← gets fun s => s.saving.pawnShop
  -- the collection asset, under the name of the collateral asset
  let collateralAssetId ← gets fun s => s.saving.collectionAssetId
  ensure (amount ≤ (← gets fun s => s.assets.free collateralAssetId sender))
    (.other "not enough collateral asset in free balance")
  makeTransferWithEvent collateralAssetId sender pawnshop amount
  let l ← gets fun s => s.saving.loans.get loan.id
  let original ← add l.collateralBalanceOriginal amount
  let available ← add l.collateralBalanceAvailable amount
  let l : Loan AccountId :=
    { l with collateralBalanceOriginal := original, collateralBalanceAvailable := available }
  modify (withSaving fun t => { t with loans := t.loans.insert loan.id l })
  addTotalCollateral amount

/-- Draw on a loan. -/
def drawFromLoan (who : AccountId) (loanId : LoanId) (amount : Balance) :
    Prog β AccountId Unit := do
  ensure ((← gets fun s => s.saving.loans.containsKey loanId) = true) (.other "invalid loan id")
  let loan ← gets fun s => s.saving.loans.get loanId
  ensure (loan.who = who) (.other "can't draw from others loan")
  let btcPrice ← gets fun s => s.btcPrice
  let globalLtv ← gets fun s => s.saving.globalLTVLimit
  let credit ← mul loan.collateralBalanceAvailable (ofU32 (asU32 btcPrice))
  let credit ← mul credit (ofU32 (asU32 globalLtv))
  let credit ← div credit (ofU32 ltvPrec)
  let availableCredit ← div credit (ofU32 pricePrec)
  ensure (amount ≤ availableCredit) (.other "short of available credit")
  let v ← gets fun s => s.saving.loans.get loanId
  let total ← add v.loanBalanceTotal amount
  modify (withSaving fun t =>
    { t with loans := t.loans.insert loanId { v with loanBalanceTotal := total } })
  let v ← gets fun s => s.saving.loans.get loanId
  let locked ← div amount (ofU32 (asU32 btcPrice))
  let available ← sub v.collateralBalanceAvailable locked
  modify (withSaving fun t =>
    { t with loans := t.loans.insert loanId { v with collateralBalanceAvailable := available } })
  addTotalLoan amount

/-! ### The calls -/

/-- Apply for a loan. -/
def applyLoan (origin : Origin AccountId) (collateralAmount loanAmount : Balance) :
    Prog β AccountId Unit := do
  ensure ((← gets fun s => s.saving.paused) = false) (.other "module is paused")
  let who ← ensureSigned origin
  applyForLoan who collateralAmount loanAmount

/-- Repay a loan. -/
def repayLoan (origin : Origin AccountId) (loanId : LoanId) : Prog β AccountId Unit := do
  ensure ((← gets fun s => s.saving.paused) = false) (.other "module is paused")
  let who ← ensureSigned origin
  repayForLoan who loanId

/-- Report the sale of a liquidating loan's collateral. -/
def markLiquidated (origin : Origin AccountId) (loanId : LoanId) (auctionBalance : Balance) :
    Prog β AccountId Unit := do
  ensure ((← gets fun s => s.saving.paused) = false) (.other "module is paused")
  let liquidationAccount ← ensureSigned origin
  ensure (liquidationAccount = (← gets fun s => s.saving.liquidationAccount))
    (.other "liquidation account only")
  ensure ((← gets fun s => s.saving.loans.containsKey loanId) = true)
    (.other "loan doesn't exists")
  let loan ← gets fun s => s.saving.loans.get loanId
  markLoanLiquidated loan liquidationAccount auctionBalance

/-- Add collateral to one's own loan. -/
def addCollateral (origin : Origin AccountId) (loanId : LoanId) (amount : Balance) :
    Prog β AccountId Unit := do
  ensure ((← gets fun s => s.saving.paused) = false) (.other "module is paused")
  let who ← ensureSigned origin
  ensure ((← gets fun s => s.saving.loans.containsKey loanId) = true)
    (.other "loan doesn't exists")
  let loan ← gets fun s => s.saving.loans.get loanId
  ensure (who = loan.who) (.other "adding collateral to other's loan is not allowed")
  addLoanCollateral loan loan.who amount

/-- Draw on one's own loan. -/
def draw (origin : Origin AccountId) (loanId : LoanId) (amount : Balance) :
    Prog β AccountId Unit := do
  ensure ((← gets fun s => s.saving.paused) = false) (.other "module is paused")
  let who ← ensureSigned origin
  drawFromLoan who loanId amount

end DepositLoan

end MoneyPool
