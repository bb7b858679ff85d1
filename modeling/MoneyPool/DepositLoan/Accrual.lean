import MoneyPool.DepositLoan.Hooks

/-!
# The parts of the accrual

The accrual of interest works out a rate, then the interest for the time that has passed, then
charges the loans. The three parts are programs here, with what one hands to the next as a value:
`MoneyPool.DepositLoan.PoolRate` and `MoneyPool.DepositLoan.Accrual`.
`MoneyPool.DepositLoan.calculateLoanInterestRate_eq` says that they are the parts of the one
function that the hook runs.
-/

namespace MoneyPool

namespace DepositLoan

open Pallet Pallet.Exec RuntimeState

variable {AccountId : Type} [DecidableEq AccountId] {β : Build}

/-- What the accrual reads and the rate it works out from that. -/
structure PoolRate (AccountId : Type) where
  collectionAssetId : AssetId
  collectionAccountId : AccountId
  currentTime : Moment
  totalLoan : Balance
  totalDeposit : Balance
  loanInterestRateCurrent : Balance

/-- **What the accrual works out** before it charges anybody. -/
structure Accrual (AccountId : Type) extends PoolRate AccountId where
  timeDuration : BitVec 32
  interestGenerated : Balance

/-! ### The parts -/

/-- The rate of the pool, if there is anything in the pool. On the way there the time of the last
distribution is overwritten. -/
def currentRate : Prog β AccountId (Option (PoolRate AccountId)) := do
  let collectionAssetId ← gets fun s => s.saving.collectionAssetId
  let collectionAccountId ← gets fun s => s.saving.collectionAccountId
  let totalLoan ← gets fun s => s.saving.totalLoan
  let totalDeposit ← add (← gets fun s => s.assets.free collectionAssetId collectionAccountId)
    totalLoan
  let currentTime ← gets fun s => s.now
  modify (withSaving fun t => { t with bonusTime := currentTime })
  let pool ← add totalDeposit totalLoan
  if pool ≠ 0 then do
    let n ← unwrap (checkedMul totalLoan 100000000)
    let utilizationRateX ← div n pool
    let loanInterestRateCurrent ← loanInterestRate utilizationRateX
    pure (some
      { collectionAssetId := collectionAssetId
        collectionAccountId := collectionAccountId
        currentTime := currentTime
        totalLoan := totalLoan
        totalDeposit := totalDeposit
        loanInterestRateCurrent := loanInterestRateCurrent })
  else pure none

/-- The interest for the time since the last distribution. -/
def accrue (r : PoolRate AccountId) : Prog β AccountId (Accrual AccountId) := do
  let lastBonusTime ← gets fun s => s.saving.bonusTime
  let elapsed ← sub r.currentTime lastBonusTime
  let timeDuration ← unwrap (tryInto 32 elapsed)
  let n ← mul (ofU32 timeDuration) r.totalLoan
  let n ← mul n r.loanInterestRateCurrent
  let n ← div n (ofU32 secPerDay)
  let interestGenerated ← div n (ofU32 daysPerYear)
  pure { toPoolRate := r, timeDuration := timeDuration, interestGenerated := interestGenerated }

/-- The rate and the interest, if there is anything in the pool. -/
def accrual : Prog β AccountId (Option (Accrual AccountId)) := do
  let r ← currentRate
  match r with
  | none => pure none
  | some r => do
    let a ← accrue r
    pure (some a)

variable [Inhabited AccountId]

/-- Charge the loans their shares of the interest, and write the rates. -/
def shareInterest (a : Accrual AccountId) : Prog β AccountId Unit := do
  let ids ← gets fun s => s.saving.loans.keys
  forEach ids
    (chargeInterest a.collectionAssetId a.collectionAccountId a.interestGenerated a.totalLoan)
  modify (withSaving fun t => { t with loanInterestRateCurrent := a.loanInterestRateCurrent })
  let r ← div a.interestGenerated (ofU32 (a.totalDeposit.setWidth 32))
  let r ← mul r (ofU32 daysPerYear)
  let r ← mul r (ofU32 secPerDay)
  let prec ← pow (10 : BitVec 32) 8
  let currentInterestRate ← mul r (ofU32 prec)
  modify (withSaving fun t => { t with savingInterestRate := currentInterestRate })

/-! ### The whole -/

omit [DecidableEq AccountId] [Inhabited AccountId] in
/-- A program whose rest falls into two parts falls into two parts. -/
theorem bind_split {α γ δ : Type} {x : Prog β AccountId α} {f : α → Prog β AccountId δ}
    {g : α → Prog β AccountId γ} {k : γ → Prog β AccountId δ} (h : ∀ a, f a = g a >>= k) :
    x >>= f = (x >>= g) >>= k := by
  rw [bind_assoc]
  exact bind_congr h

/-- The distribution is its parts. -/
theorem distributeInterest_eq (collectionAssetId : AssetId) (collectionAccountId : AccountId)
    (currentTime : Moment) (totalLoan totalDeposit loanInterestRateCurrent : Balance) :
    (distributeInterest collectionAssetId collectionAccountId currentTime totalLoan totalDeposit
      loanInterestRateCurrent : Prog β AccountId Unit) =
    accrue ⟨collectionAssetId, collectionAccountId, currentTime, totalLoan, totalDeposit,
      loanInterestRateCurrent⟩ >>= shareInterest := by
  simp only [distributeInterest, accrue, shareInterest, bind_assoc, pure_bind]

/-- **The accrual is its parts**, one after the other. -/
theorem calculateLoanInterestRate_eq :
    (calculateLoanInterestRate : Prog β AccountId Unit) =
      accrual >>= fun a => a.elim (pure ()) shareInterest := by
  simp only [calculateLoanInterestRate, accrual, currentRate, bind_assoc]
  refine bind_congr fun collectionAssetId => bind_congr fun collectionAccountId =>
    bind_congr fun totalLoan => bind_congr fun cash => bind_congr fun totalDeposit =>
    bind_congr fun currentTime => bind_congr fun _ => bind_congr fun pool => ?_
  split
  · -- the tail after each of the three computations is split off in turn
    refine bind_split fun n => bind_split fun utilizationRateX => bind_split fun rate => ?_
    rw [pure_bind, bind_assoc, distributeInterest_eq]
    exact bind_congr fun a => (pure_bind ..).symm
  · rw [pure_bind, pure_bind, Option.elim_none]

end DepositLoan

end MoneyPool
