import MoneyPool.DepositLoan.Staking
import MoneyPool.DepositLoan.Hooks

/-!
# The calls of the deposit-loan pallet

The administrator's settings, which all check the origin and write one value, and
the dispatch of a call to the operation it names.
-/

namespace MoneyPool

namespace DepositLoan

open Pallet Pallet.Exec RuntimeState

variable {AccountId : Type} [DecidableEq AccountId] {β : Build}

/-! ### Settings -/

/-- Write a setting, as the administrator. -/
def putSetting (origin : Origin AccountId) (f : Store AccountId → Store AccountId) :
    Prog β AccountId Unit := do
  ensureRoot origin
  modify (withSaving f)

/-- Write a setting that names an asset, which has to be registered. -/
def putAssetSetting (origin : Origin AccountId) (assetId : AssetId)
    (f : Store AccountId → Store AccountId) : Prog β AccountId Unit := do
  ensureRoot origin
  ensure ((← gets fun s => s.assets.assetIdExists assetId) = true)
    (.other "invalid collection asset id")
  modify (withSaving f)

def pause (origin : Origin AccountId) : Prog β AccountId Unit :=
  putSetting origin fun t => { t with paused := true }

def resume (origin : Origin AccountId) : Prog β AccountId Unit :=
  putSetting origin fun t => { t with paused := false }

def setCollectionAssetId (origin : Origin AccountId) (assetId : AssetId) :
    Prog β AccountId Unit :=
  putAssetSetting origin assetId fun t => { t with collectionAssetId := assetId }

def setCollectionAccount (origin : Origin AccountId) (accountId : AccountId) :
    Prog β AccountId Unit :=
  putSetting origin fun t => { t with collectionAccountId := accountId }

def setCollateralAssetId (origin : Origin AccountId) (assetId : AssetId) :
    Prog β AccountId Unit :=
  putSetting origin fun t => { t with collateralAssetId := assetId }

def setGlobalLTVLimit (origin : Origin AccountId) (limit : LTV) : Prog β AccountId Unit :=
  putSetting origin fun t => { t with globalLTVLimit := limit }

def setLoanAssetId (origin : Origin AccountId) (assetId : AssetId) : Prog β AccountId Unit :=
  putSetting origin fun t => { t with loanAssetId := assetId }

/-- Writes the *warning* threshold. -/
def setGlobalLiquidationThreshold (origin : Origin AccountId) (threshold : LTV) :
    Prog β AccountId Unit :=
  putSetting origin fun t => { t with globalWarningThreshold := threshold }

/-- Writes the *liquidation* threshold. -/
def setGlobalWarningThreshold (origin : Origin AccountId) (threshold : LTV) :
    Prog β AccountId Unit :=
  putSetting origin fun t => { t with globalLiquidationThreshold := threshold }

/-- A cap of zero is no cap. -/
def setLoanCap (origin : Origin AccountId) (balance : Balance) : Prog β AccountId Unit :=
  putSetting origin fun t => { t with loanCap := if balance = 0 then none else some balance }

def setLiquidationAccount (origin : Origin AccountId) (accountId : AccountId) :
    Prog β AccountId Unit :=
  putSetting origin fun t => { t with liquidationAccount := accountId }

def setProfitAssetId (origin : Origin AccountId) (assetId : AssetId) : Prog β AccountId Unit :=
  putAssetSetting origin assetId fun t => { t with profitAssetId := assetId }

def setProfitPool (origin : Origin AccountId) (accountId : AccountId) : Prog β AccountId Unit :=
  putSetting origin fun t => { t with profitPool := accountId }

def setPenaltyRate (origin : Origin AccountId) (rate : BitVec 32) : Prog β AccountId Unit :=
  putSetting origin fun t => { t with penaltyRate := rate }

/-! ### Dispatch -/

/-- The dispatchable calls. -/
inductive Call (AccountId : Type) where
  | pause : Call AccountId
  | resume : Call AccountId
  | setCollectionAssetId (assetId : AssetId) : Call AccountId
  | setCollectionAccount (accountId : AccountId) : Call AccountId
  | setCollateralAssetId (assetId : AssetId) : Call AccountId
  | setGlobalLTVLimit (limit : LTV) : Call AccountId
  | setLoanAssetId (assetId : AssetId) : Call AccountId
  | setGlobalLiquidationThreshold (threshold : LTV) : Call AccountId
  | setGlobalWarningThreshold (threshold : LTV) : Call AccountId
  | setLoanCap (balance : Balance) : Call AccountId
  | setLiquidationAccount (accountId : AccountId) : Call AccountId
  | setProfitAssetId (assetId : AssetId) : Call AccountId
  | setProfitPool (accountId : AccountId) : Call AccountId
  | setPenaltyRate (rate : BitVec 32) : Call AccountId
  | staking (assetId : AssetId) (amount : Balance) : Call AccountId
  | sudoStaking (assetId : AssetId) (amount : Balance) (delegatee : AccountId) : Call AccountId
  | redeem (iouAssetId : AssetId) (iouAssetAmount : Balance) : Call AccountId
  | sudoRedeem (iouAssetId : AssetId) (iouAssetAmount : Balance) (delegatee : AccountId) :
      Call AccountId
  | applyLoan (collateralAmount loanAmount : Balance) : Call AccountId
  | repayLoan (loanId : LoanId) : Call AccountId
  | markLiquidated (loanId : LoanId) (auctionBalance : Balance) : Call AccountId
  | addCollateral (loanId : LoanId) (amount : Balance) : Call AccountId
  | draw (loanId : LoanId) (amount : Balance) : Call AccountId

/-- The calls that an account makes on its own behalf. -/
def Call.isUserCall : Call AccountId → Bool
  | .staking _ _ => true
  | .redeem _ _ => true
  | .applyLoan _ _ => true
  | .repayLoan _ => true
  | .addCollateral _ _ => true
  | .draw _ _ => true
  | _ => false

variable [Inhabited AccountId]

/-- What a call does. -/
def dispatch (origin : Origin AccountId) : Call AccountId → Prog β AccountId Unit
  | .pause => pause origin
  | .resume => resume origin
  | .setCollectionAssetId assetId => setCollectionAssetId origin assetId
  | .setCollectionAccount accountId => setCollectionAccount origin accountId
  | .setCollateralAssetId assetId => setCollateralAssetId origin assetId
  | .setGlobalLTVLimit limit => setGlobalLTVLimit origin limit
  | .setLoanAssetId assetId => setLoanAssetId origin assetId
  | .setGlobalLiquidationThreshold threshold => setGlobalLiquidationThreshold origin threshold
  | .setGlobalWarningThreshold threshold => setGlobalWarningThreshold origin threshold
  | .setLoanCap balance => setLoanCap origin balance
  | .setLiquidationAccount accountId => setLiquidationAccount origin accountId
  | .setProfitAssetId assetId => setProfitAssetId origin assetId
  | .setProfitPool accountId => setProfitPool origin accountId
  | .setPenaltyRate rate => setPenaltyRate origin rate
  | .staking assetId amount => staking origin assetId amount
  | .sudoStaking assetId amount delegatee => sudoStaking origin assetId amount delegatee
  | .redeem iouAssetId iouAssetAmount => redeem origin iouAssetId iouAssetAmount
  | .sudoRedeem iouAssetId iouAssetAmount delegatee =>
    sudoRedeem origin iouAssetId iouAssetAmount delegatee
  | .applyLoan collateralAmount loanAmount => applyLoan origin collateralAmount loanAmount
  | .repayLoan loanId => repayLoan origin loanId
  | .markLiquidated loanId auctionBalance => markLiquidated origin loanId auctionBalance
  | .addCollateral loanId amount => addCollateral origin loanId amount
  | .draw loanId amount => draw origin loanId amount

/-! ### Genesis -/

/-- The genesis configuration of the pallet. -/
structure GenesisConfig (AccountId : Type) where
  collectionAssetId : AssetId
  profitAssetId : AssetId
  loanInterestRateCurrent : Balance
  collateralAssetId : AssetId
  loanAssetId : AssetId
  globalLTVLimit : LTV
  globalLiquidationThreshold : LTV
  globalWarningThreshold : LTV
  nextLoanId : LoanId
  penaltyRate : BitVec 32
  minimumCollateral : Balance
  liquidationPenalty : BitVec 32
  collectionAccountId : AccountId
  liquidationAccount : AccountId
  pawnShop : AccountId
  profitPool : AccountId
  marketDtoken : Balance
  totalDtoken : Balance
  savingInterestRate : Balance

/-- The genesis storage: the configured values, and defaults for what is not
configured. -/
def GenesisConfig.build (config : GenesisConfig AccountId) : Store AccountId where
  paused := false
  collectionAssetId := config.collectionAssetId
  collectionAccountId := config.collectionAccountId
  userDtoken := .empty
  marketDtoken := config.marketDtoken
  totalDtoken := config.totalDtoken
  bonusTime := 0
  loanInterestRateCurrent := config.loanInterestRateCurrent
  profitAssetId := config.profitAssetId
  profitPool := config.profitPool
  pawnShop := config.pawnShop
  collateralAssetId := config.collateralAssetId
  loanAssetId := config.loanAssetId
  globalLTVLimit := config.globalLTVLimit
  globalLiquidationThreshold := config.globalLiquidationThreshold
  globalWarningThreshold := config.globalWarningThreshold
  nextLoanId := config.nextLoanId
  loans := .empty
  loansByAccount := .empty
  totalLoan := 0
  totalCollateral := 0
  penaltyRate := config.penaltyRate
  liquidationAccount := config.liquidationAccount
  liquidatingLoans := none
  loanCap := none
  minimumCollateral := config.minimumCollateral
  liquidationPenalty := config.liquidationPenalty
  savingInterestRate := config.savingInterestRate

end DepositLoan

end MoneyPool
