import MoneyPool.RuntimeState

/-!
# Savings

Staking and redeeming. A depositor is given dtokens for what is saved, in the
proportion of the dtokens on the market to what they are worth in total; a redeem
pays out everything the dtokens are worth and stakes again what was not asked for.
Both halves of a redeem are run with their errors ignored.
-/

namespace MoneyPool

namespace DepositLoan

open Pallet Pallet.Exec RuntimeState

variable {AccountId : Type} [DecidableEq AccountId] {β : Build}

/-! ### Staking -/

/-- The dtokens a stake is given. -/
def dtokenFor (balance marketDtoken totalDtoken : Balance) : Prog β AccountId Balance :=
  if totalDtoken = 0 then pure balance
  else do
    let product ← unwrap (checkedMul balance marketDtoken)
    div product totalDtoken

/-- Add dtokens to an account's entry, which need not exist yet. -/
def creditDtoken (who : AccountId) (userDtoken : Balance) : Prog β AccountId Unit := do
  if (← gets fun s => s.saving.userDtoken.containsKey who) = true then do
    let v ← gets fun s => s.saving.userDtoken.get who
    let v ← unwrap (checkedAdd v userDtoken)
    modify (withSaving fun t => { t with userDtoken := t.userDtoken.insert who v })
  else modify (withSaving fun t => { t with userDtoken := t.userDtoken.insert who userDtoken })

/-- Stake. -/
def createStaking (who : AccountId) (assetId : AssetId) (balance : Balance) :
    Prog β AccountId Unit := do
  ensure (balance ≠ 0) (.other "saving can't be zero")
  let marketDtokenAmount ← gets fun s => s.saving.marketDtoken
  let totalDtokenAmount ← gets fun s => s.saving.totalDtoken
  let collectionAccountId ← gets fun s => s.saving.collectionAccountId
  makeTransferWithEvent assetId who collectionAccountId balance
  let userDtoken ← dtokenFor balance marketDtokenAmount totalDtokenAmount
  creditDtoken who userDtoken
  let marketDtoken ← unwrap (checkedAdd marketDtokenAmount userDtoken)
  let totalDtoken ← unwrap (checkedAdd marketDtokenAmount balance)
  modify (withSaving fun t => { t with marketDtoken := marketDtoken, totalDtoken := totalDtoken })

/-! ### Redeeming -/

/-- Pay an account all that its dtokens are worth. -/
def makeRedeemAll (who : AccountId) : Prog β AccountId Unit := do
  let marketDtokenAmount ← gets fun s => s.saving.marketDtoken
  let totalDtokenAmount ← gets fun s => s.saving.totalDtoken
  let collectionAssetId ← gets fun s => s.saving.collectionAssetId
  let collectionAccountId ← gets fun s => s.saving.collectionAccountId
  let userDtokenAmount ← gets fun s => s.saving.userDtoken.get who
  let ratio ← div marketDtokenAmount totalDtokenAmount
  let userWillGet ← div userDtokenAmount ratio
  ensure (userWillGet ≤ (← gets fun s => s.assets.free collectionAssetId collectionAccountId))
    (.other "saving balance is short")
  ensure (userDtokenAmount ≤ totalDtokenAmount) (.other "total dtoken is short")
  ensure (userDtokenAmount ≤ marketDtokenAmount) (.other "market dtoken is short")
  let totalDtoken ← sub totalDtokenAmount userWillGet
  let marketDtoken ← sub marketDtokenAmount userDtokenAmount
  modify (withSaving fun t => { t with marketDtoken := marketDtoken, totalDtoken := totalDtoken })
  makeTransferWithEvent collectionAssetId collectionAccountId who userWillGet

/-- Redeem: pay out everything, and stake the rest again. -/
def makeRedeem (who : AccountId) (collectionAssetId : AssetId)
    (_collectionAccountId : AccountId) (amount : Balance) : Prog β AccountId Unit := do
  let marketDtokenAmount ← gets fun s => s.saving.marketDtoken
  let totalDtokenAmount ← gets fun s => s.saving.totalDtoken
  let userDtokenAmount ← gets fun s => s.saving.userDtoken.get who
  let ratio ← div marketDtokenAmount totalDtokenAmount
  let userWillGet ← div userDtokenAmount ratio
  ensure (amount ≤ userWillGet) (.other "redeem too much assets!")
  swallow (makeRedeemAll who)
  let rest ← sub userWillGet amount
  swallow (createStaking who collectionAssetId rest)

/-! ### The calls -/

/-- The part `staking` and `sudo_staking` share. -/
def stakingFor (who : AccountId) (assetId : AssetId) (amount : Balance) :
    Prog β AccountId Unit := do
  ensure ((← gets fun s => s.saving.collectionAssetId) = assetId)
    (.other "can't collect this asset")
  ensure (amount ≤ (← gets fun s => s.assets.free assetId who)) (.other "insufficient balance")
  createStaking who assetId amount

/-- Save an asset. -/
def staking (origin : Origin AccountId) (assetId : AssetId) (amount : Balance) :
    Prog β AccountId Unit := do
  ensure ((← gets fun s => s.saving.paused) = false) (.other "module is paused")
  let who ← ensureSigned origin
  stakingFor who assetId amount

/-- Save an asset for somebody else. -/
def sudoStaking (origin : Origin AccountId) (assetId : AssetId) (amount : Balance)
    (delegatee : AccountId) : Prog β AccountId Unit := do
  ensure ((← gets fun s => s.saving.paused) = false) (.other "module is paused")
  ensureRoot origin
  stakingFor delegatee assetId amount

/-- The part `redeem` and `sudo_redeem` share. -/
def redeemFor (who : AccountId) (iouAssetId : AssetId) (iouAssetAmount : Balance) :
    Prog β AccountId Unit := do
  let collectionAssetId ← gets fun s => s.saving.collectionAssetId
  let collectionAccountId ← gets fun s => s.saving.collectionAccountId
  ensure (iouAssetAmount ≤ (← gets fun s => s.assets.free collectionAssetId collectionAccountId))
    (.other "Not enough to redeem")
  ensure (collectionAssetId = iouAssetId)
    (.other "collection asset id different from iou asset id")
  makeRedeem who collectionAssetId collectionAccountId iouAssetAmount

/-- Redeem savings. -/
def redeem (origin : Origin AccountId) (iouAssetId : AssetId) (iouAssetAmount : Balance) :
    Prog β AccountId Unit := do
  ensure ((← gets fun s => s.saving.paused) = false) (.other "module is paused")
  let who ← ensureSigned origin
  redeemFor who iouAssetId iouAssetAmount

/-- Redeem savings for somebody else. -/
def sudoRedeem (origin : Origin AccountId) (iouAssetId : AssetId) (iouAssetAmount : Balance)
    (delegatee : AccountId) : Prog β AccountId Unit := do
  ensure ((← gets fun s => s.saving.paused) = false) (.other "module is paused")
  ensureRoot origin
  redeemFor delegatee iouAssetId iouAssetAmount

end DepositLoan

end MoneyPool
