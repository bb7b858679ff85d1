import MoneyPool.DepositLoan.Loans

/-!
# The block hooks

What the deposit-loan pallet does at the start of every block: the scan that
looks for loans to warn about or to liquidate, and the accrual of interest. A
panic in here is not a failed call: it stops the chain.

Both loops enumerate the loans that are there when they start and read each loan
when its turn comes, as the linked map does.
-/

namespace MoneyPool

namespace DepositLoan

open Pallet Pallet.Exec RuntimeState

variable {AccountId : Type} [DecidableEq AccountId] [Inhabited AccountId] {β : Build}

/-! ### The liquidation scan -/

/-- Put a loan into liquidation. -/
def liquidateLoan (loanId : LoanId) (liquidatingLtv : LTV) : Prog β AccountId Unit := do
  modify (withSaving fun t => { t with
    loans := t.loans.mutate loanId fun v => { v with status := .liquidating liquidatingLtv } })
  if (← gets fun s => s.saving.liquidatingLoans.isSome) = true then
    modify (withSaving fun t => { t with liquidatingLoans := some (t.inLiquidation ++ [loanId]) })
  else modify (withSaving fun t => { t with liquidatingLoans := some [loanId] })

/-- What the scan does about a loan of a given health. -/
def recordHealth (loanId : LoanId) (loan : Loan AccountId) :
    LoanHealth → Prog β AccountId Unit
  | .well => pure ()
  | .warning ltv =>
    if loan.status ≠ .warning ltv then
      modify (withSaving fun t => { t with
        loans := t.loans.mutate loan.id fun v => { v with status := .warning ltv } })
    else pure ()
  | .liquidating l => liquidateLoan loanId l

/-- One turn of the scan. -/
def scanLoan (btcPrice : PriceInUSDT) (liquidationThd warningThd : LTV) (loanId : LoanId) :
    Prog β AccountId Unit := do
  let loan ← gets fun s => s.saving.loans.get loanId
  if (← gets fun s => s.saving.checkLoanInLiquidation loanId) = true then pure ()
  else do
    let health ← checkLoanHealth loan btcPrice liquidationThd warningThd
    recordHealth loanId loan health

/-- The liquidation scan. -/
def onEachBlock (_height : BlockNumber) : Prog β AccountId Unit := do
  let liquidationThd ← gets fun s => s.saving.globalLiquidationThreshold
  let warningThd ← gets fun s => s.saving.globalWarningThreshold
  let btcPrice ← gets fun s => s.btcPrice
  let ids ← gets fun s => s.saving.loans.keys
  forEach ids (scanLoan btcPrice liquidationThd warningThd)

/-! ### Interest -/

/-- The interest rate at a utilisation, both with eight decimal places. -/
def loanInterestRate (utilizationRateX : BitVec 128) : Prog β AccountId (BitVec 128) :=
  if utilizationRateX < 400000000 then do
    let n ← add utilizationRateX 50000000
    div n 10
  else if 80000000 ≤ utilizationRateX then do
    let a ← pow utilizationRateX 6
    let a ← mul 30 a
    let b ← pow utilizationRateX 3
    let b ← mul 10 b
    let c ← pow 10 24
    let b ← mul b c
    let ab ← add a b
    let d ← pow 10 48
    let d ← mul 6 d
    let n ← add ab d
    let e ← pow 10 42
    div n e
  else do
    let n ← mul 20 utilizationRateX
    let c ← pow 10 8
    let n ← mul n c
    let d ← pow 10 2
    div n d

/-- Charge a loan its share of the interest. -/
def chargeInterest (collectionAssetId : AssetId) (collectionAccountId : AccountId)
    (interestGenerated totalLoan : Balance) (loanId : LoanId) : Prog β AccountId Unit := do
  let loan ← gets fun s => s.saving.loans.get loanId
  let n ← mul interestGenerated loan.loanBalanceTotal
  let prec ← pow (10 : BitVec 32) 8
  let d ← mul totalLoan (ofU32 prec)
  let amount ← div n d
  swallow (drawFromLoan loan.who loanId amount)
  swallow (makeTransferWithEvent collectionAssetId loan.who collectionAccountId amount)
  let v ← unwrap (checkedAdd (← gets fun s => s.saving.totalDtoken) amount)
  modify (withSaving fun t => { t with totalDtoken := v })

/-- Charge interest at a rate for the time since the last distribution. -/
def distributeInterest (collectionAssetId : AssetId) (collectionAccountId : AccountId)
    (currentTime : Moment) (totalLoan totalDeposit loanInterestRateCurrent : Balance) :
    Prog β AccountId Unit := do
  let lastBonusTime ← gets fun s => s.saving.bonusTime
  let elapsed ← sub currentTime lastBonusTime
  let timeDuration ← unwrap (tryInto 32 elapsed)
  let n ← mul (ofU32 timeDuration) totalLoan
  let n ← mul n loanInterestRateCurrent
  let n ← div n (ofU32 secPerDay)
  let interestGenerated ← div n (ofU32 daysPerYear)
  let ids ← gets fun s => s.saving.loans.keys
  forEach ids (chargeInterest collectionAssetId collectionAccountId interestGenerated totalLoan)
  modify (withSaving fun t => { t with loanInterestRateCurrent := loanInterestRateCurrent })
  let r ← div interestGenerated (ofU32 (totalDeposit.setWidth 32))
  let r ← mul r (ofU32 daysPerYear)
  let r ← mul r (ofU32 secPerDay)
  let prec ← pow (10 : BitVec 32) 8
  let currentInterestRate ← mul r (ofU32 prec)
  modify (withSaving fun t => { t with savingInterestRate := currentInterestRate })

/-- The accrual of interest. -/
def calculateLoanInterestRate : Prog β AccountId Unit := do
  let collectionAssetId ← gets fun s => s.saving.collectionAssetId
  let collectionAccountId ← gets fun s => s.saving.collectionAccountId
  let totalLoan ← gets fun s => s.saving.totalLoan
  let totalDeposit ← add (← gets fun s => s.assets.free collectionAssetId collectionAccountId)
    totalLoan
  let currentTime ← gets fun s => s.now
  modify (withSaving fun t => { t with bonusTime := currentTime })
  let pool ← add totalDeposit totalLoan
  if pool ≠ 0 then do
    let n ← unwrap (checkedMul totalLoan 100000000)
    let utilizationRateX ← div n pool
    let loanInterestRateCurrent ← loanInterestRate utilizationRateX
    distributeInterest collectionAssetId collectionAccountId currentTime totalLoan totalDeposit
      loanInterestRateCurrent
  else pure ()

/-- The hook at the start of a block. -/
def onInitialize (height : BlockNumber) : Prog β AccountId Unit := do
  if (← gets fun s => s.saving.paused) = false then do
    onEachBlock height
    calculateLoanInterestRate
  else pure ()

end DepositLoan

end MoneyPool
