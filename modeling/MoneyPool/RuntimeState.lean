import MoneyPool.GenericAsset.Model
import MoneyPool.NewOracle.Model

/-!
# The state of the runtime

The storage of the deposit-loan pallet, next to the storages of the two pallets
it works on. Its functions are programs on the whole
`MoneyPool.RuntimeState`; what they do to the ledger goes through
`MoneyPool.RuntimeState.assetsLens`, so that a transfer can only touch the ledger.
-/

namespace MoneyPool

open Pallet

/-! ### Loans -/

/-- `LTV`, a `u64`. -/
abbrev LTV : Type := BitVec 64

/-- `LoanId`, a `u64`. -/
abbrev LoanId : Type := BitVec 64

namespace DepositLoan

/-- Seconds in a day. -/
def secPerDay : BitVec 32 := 86400

/-- Days in a year. -/
def daysPerYear : BitVec 32 := 365

/-- The precision of loan-to-value ratios. -/
def ltvPrec : BitVec 32 := 10000

/-- The precision of prices. -/
def pricePrec : BitVec 32 := 10000

/-- `Balance::from` on a `u32`. -/
def ofU32 (a : BitVec 32) : Balance := a.setWidth 128

/-- `Balance::from` on a `u64`. -/
def ofU64 (a : BitVec 64) : Balance := a.setWidth 128

/-- `as u32` on a `u64`. -/
def asU32 (a : BitVec 64) : BitVec 32 := a.setWidth 32

/-- How healthy a loan is. -/
inductive LoanHealth where
  | well
  | warning (ltv : LTV)
  | liquidating (ltv : LTV)
  deriving DecidableEq

instance : Inhabited LoanHealth := ⟨.well⟩

/-- The terms of a loan. -/
structure CollateralLoan where
  collateralAmount : Balance
  loanAmount : Balance
  deriving DecidableEq

/-- A loan. -/
structure Loan (AccountId : Type) where
  id : LoanId
  who : AccountId
  collateralBalanceOriginal : Balance
  collateralBalanceAvailable : Balance
  loanBalanceTotal : Balance
  status : LoanHealth
  deriving DecidableEq, Inhabited

/-- **The storage** of the deposit-loan pallet. -/
structure Store (AccountId : Type) where
  /-- Module level switch. -/
  paused : Bool
  /-- The asset that users save. -/
  collectionAssetId : AssetId
  /-- The account where the savings go. -/
  collectionAccountId : AccountId
  /-- The dtokens of each depositor. -/
  userDtoken : StorageMap AccountId Balance
  /-- Total dtokens generated. -/
  marketDtoken : Balance
  /-- What the dtokens are worth in total. -/
  totalDtoken : Balance
  /-- Time of the last distribution of interest. -/
  bonusTime : Moment
  /-- Annualised interest rate of loans. -/
  loanInterestRateCurrent : Balance
  /-- The asset of the profits. -/
  profitAssetId : AssetId
  /-- The account of the profits. -/
  profitPool : AccountId
  /-- The account that holds the collateral. -/
  pawnShop : AccountId
  /-- The asset used as collateral. -/
  collateralAssetId : AssetId
  /-- The asset loans are repaid in. -/
  loanAssetId : AssetId
  /-- The maximum LTV that a loan can be set initially. -/
  globalLTVLimit : LTV
  /-- From this LTV on a loan is liquidated. -/
  globalLiquidationThreshold : LTV
  /-- From this LTV on a warning is given. -/
  globalWarningThreshold : LTV
  /-- The id of the next loan. -/
  nextLoanId : LoanId
  /-- Currently running loans. -/
  loans : StorageMap LoanId (Loan AccountId)
  /-- Loan ids aggregated by account. -/
  loansByAccount : StorageMap AccountId (List LoanId)
  /-- Total balance of loan asset in circulation. -/
  totalLoan : Balance
  /-- Total balance of collateral asset in the pawn shop. -/
  totalCollateral : Balance
  /-- Set by the administrator and read by nothing else. -/
  penaltyRate : BitVec 32
  /-- The account in charge of selling the collateral of liquidating loans. -/
  liquidationAccount : AccountId
  /-- The loans in liquidation, once there has been one. -/
  liquidatingLoans : Option (List LoanId)
  /-- A cap on the total loan balance, if there is one. -/
  loanCap : Option Balance
  /-- The least collateral of a loan. -/
  minimumCollateral : Balance
  /-- The percentage of a liquidation's leftover that goes to the profits. -/
  liquidationPenalty : BitVec 32
  /-- The current interest rate of savings. -/
  savingInterestRate : Balance

/-- The ids in liquidation. -/
def Store.inLiquidation {AccountId : Type} (s : Store AccountId) : List LoanId :=
  s.liquidatingLoans.getD []

end DepositLoan

/-! ### The runtime -/

/-- **The state of the runtime**: the three storages, what the timestamp pallet
returns, and the account of the administrator. -/
structure RuntimeState (AccountId : Type) where
  assets : GenericAsset.Store AccountId
  oracle : NewOracle.Store
  saving : DepositLoan.Store AccountId
  now : Moment
  sudoKey : AccountId

/-- A program on the runtime. -/
abbrev Prog (β : Build) (AccountId α : Type) : Type :=
  Exec β (RuntimeState AccountId) DispatchError α

namespace RuntimeState

variable {AccountId : Type}

/-- The ledger, as a part of the runtime. -/
@[reducible] def assetsLens : Lens (RuntimeState AccountId) (GenericAsset.Store AccountId) where
  get s := s.assets
  set t s := { s with assets := t }
  get_set _ _ := rfl
  set_get _ := rfl
  set_set _ _ _ := rfl

/-- The oracle, as a part of the runtime. -/
@[reducible] def oracleLens : Lens (RuntimeState AccountId) NewOracle.Store where
  get s := s.oracle
  set t s := { s with oracle := t }
  get_set _ _ := rfl
  set_get _ := rfl
  set_set _ _ _ := rfl

/-- Rewrite the storage of the deposit-loan pallet. -/
@[reducible] def withSaving (f : DepositLoan.Store AccountId → DepositLoan.Store AccountId)
    (s : RuntimeState AccountId) : RuntimeState AccountId :=
  { s with saving := f s.saving }

/-- Transfer some asset between two accounts. -/
def makeTransferWithEvent [DecidableEq AccountId] {β : Build} (assetId : AssetId)
    (fromAccount toAccount : AccountId) (amount : Balance) : Prog β AccountId Unit :=
  Exec.zoom assetsLens (GenericAsset.makeTransferWithEvent assetId fromAccount toAccount amount)

/-- The price of the collateral: the current price of the symbol of its asset. -/
def btcPrice (s : RuntimeState AccountId) : PriceInUSDT :=
  s.oracle.currentPrice.get (s.assets.symbols.get s.saving.collateralAssetId)

variable [DecidableEq AccountId]

/-- The free balance of the collection asset in the collection account. -/
def cash (s : RuntimeState AccountId) : Balance :=
  s.assets.free s.saving.collectionAssetId s.saving.collectionAccountId

end RuntimeState

end MoneyPool
