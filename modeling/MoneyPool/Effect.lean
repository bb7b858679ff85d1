import MoneyPool.Chain
import MoneyPool.DepositLoan.Savings
import MoneyPool.DepositLoan.BlockHook

/-!
# What a step of the chain does

`MoneyPool.Effect` lists everything a step can do to the runtime, each time with
what it has checked before: one constructor for each way a call can end that
changes anything, and whether the call has succeeded. `MoneyPool.next_effect` says
that the list is complete. Every invariant of the chain is proved by cases on it.
-/

namespace MoneyPool

open Pallet Pallet.Exec DepositLoan RuntimeState

variable {AccountId : Type}

/-- What a setting writes. -/
def DepositLoan.Call.setting :
    DepositLoan.Call AccountId → Option (DepositLoan.Store AccountId → DepositLoan.Store AccountId)
  | .pause => some fun t => { t with paused := true }
  | .resume => some fun t => { t with paused := false }
  | .setCollectionAssetId assetId => some fun t => { t with collectionAssetId := assetId }
  | .setCollectionAccount accountId => some fun t => { t with collectionAccountId := accountId }
  | .setCollateralAssetId assetId => some fun t => { t with collateralAssetId := assetId }
  | .setGlobalLTVLimit limit => some fun t => { t with globalLTVLimit := limit }
  | .setLoanAssetId assetId => some fun t => { t with loanAssetId := assetId }
  | .setGlobalLiquidationThreshold threshold =>
    some fun t => { t with globalWarningThreshold := threshold }
  | .setGlobalWarningThreshold threshold =>
    some fun t => { t with globalLiquidationThreshold := threshold }
  | .setLoanCap balance =>
    some fun t => { t with loanCap := if balance = 0 then none else some balance }
  | .setLiquidationAccount accountId => some fun t => { t with liquidationAccount := accountId }
  | .setProfitAssetId assetId => some fun t => { t with profitAssetId := assetId }
  | .setProfitPool accountId => some fun t => { t with profitPool := accountId }
  | .setPenaltyRate rate => some fun t => { t with penaltyRate := rate }
  | _ => none

/-- Who stakes what in a step, if it is a stake. -/
def Step.stake : Step AccountId → Option (AccountId × AssetId × Balance)
  | .extrinsic (.signed who) (.depositLoan (.staking assetId amount)) => some (who, assetId, amount)
  | .extrinsic .root (.depositLoan (.sudoStaking assetId amount who)) => some (who, assetId, amount)
  | _ => none

/-- Who redeems what in a step, if it is a redeem. -/
def Step.redeem : Step AccountId → Option (AccountId × AssetId × Balance)
  | .extrinsic (.signed who) (.depositLoan (.redeem assetId amount)) => some (who, assetId, amount)
  | .extrinsic .root (.depositLoan (.sudoRedeem assetId amount who)) => some (who, assetId, amount)
  | _ => none

variable [DecidableEq AccountId] [Inhabited AccountId]

/-- **What a step may do**, and whether it succeeds. -/
inductive Effect (s : RuntimeState AccountId) :
    Step AccountId → Bool → RuntimeState AccountId → Prop
  /-- Nothing: the call was refused. -/
  | unchanged (i : Step AccountId) : Effect s i false s
  /-- A block has its timestamp. -/
  | timed (now : Moment) : Effect s (.timestamp now) true { s with now := now }
  /-- The oracle pallet was called. -/
  | oracleCall (origin : Origin AccountId) (call : NewOracle.Call) (ok : Bool)
      (oracle : NewOracle.Store) :
      Effect s (.extrinsic origin (.newOracle call)) ok { s with oracle := oracle }
  /-- The oracle has aggregated its prices. -/
  | aggregated (height : BlockNumber) (ok : Bool) (oracle : NewOracle.Store) :
      Effect s (.onFinalize height) ok { s with oracle := oracle }
  /-- The generic-asset pallet was called. -/
  | ledgerCall (origin : Origin AccountId) (call : GenericAsset.Call AccountId)
      (assets : GenericAsset.Store AccountId)
      (h : (GenericAsset.dispatch s.sudoKey origin call :
            GenericAsset.Prog .release AccountId Unit) s.assets = .ok () assets) :
      Effect s (.extrinsic origin (.genericAsset call)) true { s with assets := assets }
  /-- The generic-asset pallet was called and has failed. -/
  | ledgerFailed (origin : Origin AccountId) (call : GenericAsset.Call AccountId)
      (assets : GenericAsset.Store AccountId) (e : DispatchError)
      (h : (GenericAsset.dispatch s.sudoKey origin call :
            GenericAsset.Prog .release AccountId Unit) s.assets = .err e assets) :
      Effect s (.extrinsic origin (.genericAsset call)) false { s with assets := assets }
  /-- A setting was written. -/
  | set (call : DepositLoan.Call AccountId)
      (f : DepositLoan.Store AccountId → DepositLoan.Store AccountId)
      (h : call.setting = some f) :
      Effect s (.extrinsic .root (.depositLoan call)) true (s.withSaving f)
  /-- Somebody has staked. -/
  | staked {i : Step AccountId} (who : AccountId) (assetId : AssetId) (amount : Balance)
      (hi : i.stake = some (who, assetId, amount)) (hopen : s.saving.paused = false)
      (hasset : s.saving.collectionAssetId = assetId) (h : s.CanStake who assetId amount) :
      Effect s i true (s.staked who assetId amount)
  /-- Somebody has redeemed. -/
  | redeemed {i : Step AccountId} {s' : RuntimeState AccountId} (who : AccountId)
      (assetId : AssetId) (amount : Balance)
      (hi : i.redeem = some (who, assetId, amount)) (hopen : s.saving.paused = false)
      (hcan : s.CanRedeem who assetId amount) (h : s.Redeemed who assetId amount s') :
      Effect s i true s'
  /-- A loan was granted. -/
  | granted (who : AccountId) (collateralAmount loanAmount : Balance)
      (hopen : s.saving.paused = false)
      (h : s.CanApply .release who collateralAmount loanAmount) :
      Effect s (.extrinsic (.signed who) (.depositLoan (.applyLoan collateralAmount loanAmount)))
        true (s.withLoan who collateralAmount loanAmount)
  /-- A loan was refused after its collateral had been taken. -/
  | taken (who : AccountId) (collateralAmount loanAmount : Balance)
      (hopen : s.saving.paused = false)
      (hcov : (s.terms collateralAmount loanAmount).collateralAmount ≤
        s.assets.free s.saving.collateralAssetId who)
      (h : ¬loanAmount ≤ (s.collateralTaken who collateralAmount loanAmount).cash) :
      Effect s (.extrinsic (.signed who) (.depositLoan (.applyLoan collateralAmount loanAmount)))
        false (s.collateralTaken who collateralAmount loanAmount)
  /-- A loan was repaid. -/
  | repaid (who : AccountId) (loanId : LoanId) (hopen : s.saving.paused = false)
      (htry : s.CanTryRepay who (s.saving.loans.get loanId) loanId)
      (h : s.CanReturn who (s.saving.loans.get loanId)) :
      Effect s (.extrinsic (.signed who) (.depositLoan (.repayLoan loanId))) true
        (s.repaid who (s.saving.loans.get loanId) loanId)
  /-- A repayment was reverted. -/
  | repayReverted (who : AccountId) (loanId : LoanId) (assets : GenericAsset.Store AccountId)
      (hopen : s.saving.paused = false)
      (htry : s.CanTryRepay who (s.saving.loans.get loanId) loanId)
      (h : ¬s.CanReturn who (s.saving.loans.get loanId))
      (ha : s.Returned who (s.saving.loans.get loanId) assets) :
      Effect s (.extrinsic (.signed who) (.depositLoan (.repayLoan loanId))) false
        { s with
          assets := assets
          saving := s.repayReverted who (s.saving.loans.get loanId) loanId }
  /-- A loan in liquidation was closed. -/
  | liquidated (who : AccountId) (loanId : LoanId) (auctionBalance : Balance)
      (hopen : s.saving.paused = false) (hwho : who = s.saving.liquidationAccount)
      (hfound : s.saving.loans.containsKey loanId = true)
      (htry : s.CanTryLiquidate (s.saving.loans.get loanId) who auctionBalance)
      (h : s.CanSettle (s.saving.loans.get loanId) who auctionBalance) :
      Effect s (.extrinsic (.signed who) (.depositLoan (.markLiquidated loanId auctionBalance)))
        true (s.liquidated (s.saving.loans.get loanId) who auctionBalance)
  /-- A loan in liquidation could not be closed. -/
  | notLiquidated (who : AccountId) (loanId : LoanId) (auctionBalance : Balance)
      (assets : GenericAsset.Store AccountId)
      (hopen : s.saving.paused = false) (hwho : who = s.saving.liquidationAccount)
      (hfound : s.saving.loans.containsKey loanId = true)
      (htry : s.CanTryLiquidate (s.saving.loans.get loanId) who auctionBalance)
      (h : ¬s.CanSettle (s.saving.loans.get loanId) who auctionBalance)
      (ha : (s.sold (s.saving.loans.get loanId) who).NotShared (s.saving.loans.get loanId) who
        (auctionBalance - (s.saving.loans.get loanId).loanBalanceTotal) assets) :
      Effect s (.extrinsic (.signed who) (.depositLoan (.markLiquidated loanId auctionBalance)))
        false { s with assets := assets }
  /-- Collateral was added to a loan. -/
  | collateralAdded (who : AccountId) (loanId : LoanId) (amount : Balance)
      (hopen : s.saving.paused = false)
      (hfound : s.saving.loans.containsKey loanId = true)
      (howner : who = (s.saving.loans.get loanId).who)
      (h : amount ≤ s.assets.free s.saving.collectionAssetId who) :
      Effect s (.extrinsic (.signed who) (.depositLoan (.addCollateral loanId amount))) true
        (s.collateralAdded (s.saving.loans.get loanId) who amount)
  /-- A loan was drawn on. -/
  | drawn (who : AccountId) (loanId : LoanId) (amount : Balance)
      (hopen : s.saving.paused = false) (h : s.CanDraw who loanId amount) :
      Effect s (.extrinsic (.signed who) (.depositLoan (.draw loanId amount))) true
        (s.drawn loanId amount)
  /-- The hook of a block has run. -/
  | hook {s' : RuntimeState AccountId} (height : BlockNumber)
      (h : Relation.ReflTransGen HookStep s s') : Effect s (.onInitialize height) true s'

variable {s s' : RuntimeState AccountId} {origin : Origin AccountId}

/-! ### Calls -/

/-- **A setting** is written by the administrator or not at all. -/
theorem setting_spec {call : DepositLoan.Call AccountId}
    {f : DepositLoan.Store AccountId → DepositLoan.Store AccountId} (h : call.setting = some f) :
    wp (DepositLoan.dispatch origin call : Prog .release AccountId Unit)
      (fun _ t => Effect s (.extrinsic origin (.depositLoan call)) true t)
      (fun _ t => Effect s (.extrinsic origin (.depositLoan call)) false t) True s := by
  have hset : origin = .root →
      Effect s (.extrinsic origin (.depositLoan call)) true (s.withSaving f) := by
    rintro rfl
    exact .set call f h
  have hsame : Effect s (.extrinsic origin (.depositLoan call)) false s := .unchanged _
  have hput : wp (putSetting origin f : Prog .release AccountId Unit)
      (fun _ t => Effect s (.extrinsic origin (.depositLoan call)) true t)
      (fun _ t => Effect s (.extrinsic origin (.depositLoan call)) false t) True s := by
    simp only [putSetting, wp_bind, wp_ensureRoot, wp_modify]
    exact ⟨hset, fun _ => hsame⟩
  have hasset : ∀ assetId, wp (putAssetSetting origin assetId f : Prog .release AccountId Unit)
      (fun _ t => Effect s (.extrinsic origin (.depositLoan call)) true t)
      (fun _ t => Effect s (.extrinsic origin (.depositLoan call)) false t) True s := by
    intro assetId
    simp only [putAssetSetting, wp_bind, wp_ensureRoot, wp_gets, wp_ensure, wp_modify]
    exact ⟨fun hroot => ⟨fun _ => hset hroot, fun _ => hsame⟩, fun _ => hsame⟩
  cases call <;> cases h <;> first | exact hput | exact hasset _

/-- **A call of the deposit-loan pallet** has one of the listed effects. -/
theorem depositLoan_spec {call : DepositLoan.Call AccountId} :
    wp (DepositLoan.dispatch origin call : Prog .release AccountId Unit)
      (fun _ t => Effect s (.extrinsic origin (.depositLoan call)) true t)
      (fun _ t => Effect s (.extrinsic origin (.depositLoan call)) false t) True s := by
  have hsame : Effect s (.extrinsic origin (.depositLoan call)) false s := .unchanged _
  -- every call is refused before it writes where the module is paused or the origin is wrong
  cases call with
  | staking assetId amount =>
    simp only [DepositLoan.dispatch, staking, wp_bind, wp_gets, wp_ensure, wp_ensureSigned]
    refine ⟨fun hopen => ⟨?_, fun _ => hsame⟩, fun _ => hsame⟩
    rintro who rfl
    refine wp_mono stakingFor_spec ?_ ?_ id
    · rintro _ _ ⟨hasset, hcan, rfl⟩
      exact .staked who assetId amount rfl hopen hasset hcan
    · rintro _ _ rfl
      exact hsame
  | sudoStaking assetId amount who =>
    simp only [DepositLoan.dispatch, sudoStaking, wp_bind, wp_gets, wp_ensure, wp_ensureRoot]
    refine ⟨fun hopen => ⟨?_, fun _ => hsame⟩, fun _ => hsame⟩
    rintro rfl
    refine wp_mono stakingFor_spec ?_ ?_ id
    · rintro _ _ ⟨hasset, hcan, rfl⟩
      exact .staked who assetId amount rfl hopen hasset hcan
    · rintro _ _ rfl
      exact hsame
  | redeem assetId amount =>
    simp only [DepositLoan.dispatch, redeem, wp_bind, wp_gets, wp_ensure, wp_ensureSigned]
    refine ⟨fun hopen => ⟨?_, fun _ => hsame⟩, fun _ => hsame⟩
    rintro who rfl
    refine wp_mono redeemFor_spec ?_ ?_ id
    · rintro _ _ ⟨hcan, hred⟩
      exact .redeemed who assetId amount rfl hopen hcan hred
    · rintro _ _ rfl
      exact hsame
  | sudoRedeem assetId amount who =>
    simp only [DepositLoan.dispatch, sudoRedeem, wp_bind, wp_gets, wp_ensure, wp_ensureRoot]
    refine ⟨fun hopen => ⟨?_, fun _ => hsame⟩, fun _ => hsame⟩
    rintro rfl
    refine wp_mono redeemFor_spec ?_ ?_ id
    · rintro _ _ ⟨hcan, hred⟩
      exact .redeemed who assetId amount rfl hopen hcan hred
    · rintro _ _ rfl
      exact hsame
  | applyLoan collateralAmount loanAmount =>
    simp only [DepositLoan.dispatch, applyLoan, wp_bind, wp_gets, wp_ensure, wp_ensureSigned]
    refine ⟨fun hopen => ⟨?_, fun _ => hsame⟩, fun _ => hsame⟩
    rintro who rfl
    refine wp_mono applyForLoan_spec ?_ ?_ id
    · rintro _ _ ⟨hcan, rfl⟩
      exact .granted who _ _ hopen hcan
    · rintro _ _ (rfl | ⟨hcov, hno, rfl⟩)
      · exact hsame
      · exact .taken who _ _ hopen hcov hno
  | repayLoan loanId =>
    simp only [DepositLoan.dispatch, repayLoan, wp_bind, wp_gets, wp_ensure, wp_ensureSigned]
    refine ⟨fun hopen => ⟨?_, fun _ => hsame⟩, fun _ => hsame⟩
    rintro who rfl
    refine wp_mono (repayForLoan_spec rfl) ?_ ?_ id
    · rintro _ _ ⟨htry, hret, rfl⟩
      exact .repaid who loanId hopen htry hret
    · rintro _ _ (⟨-, rfl⟩ | ⟨htry, hret, a, ha, rfl⟩)
      · exact hsame
      · exact .repayReverted who loanId a hopen htry hret ha
  | markLiquidated loanId auctionBalance =>
    simp only [DepositLoan.dispatch, markLiquidated, wp_bind, wp_gets, wp_ensure, wp_ensureSigned]
    refine ⟨fun hopen => ⟨?_, fun _ => hsame⟩, fun _ => hsame⟩
    rintro who rfl
    refine ⟨fun hwho => ⟨fun hfound => ?_, fun _ => hsame⟩, fun _ => hsame⟩
    refine wp_mono markLoanLiquidated_spec ?_ ?_ id
    · rintro _ _ ⟨htry, hset, rfl⟩
      exact .liquidated who loanId auctionBalance hopen hwho hfound htry hset
    · rintro _ _ (⟨-, rfl⟩ | ⟨htry, hset, a, ha, rfl⟩)
      · exact hsame
      · exact .notLiquidated who loanId auctionBalance a hopen hwho hfound htry hset ha
  | addCollateral loanId amount =>
    simp only [DepositLoan.dispatch, addCollateral, wp_bind, wp_gets, wp_ensure, wp_ensureSigned]
    refine ⟨fun hopen => ⟨?_, fun _ => hsame⟩, fun _ => hsame⟩
    rintro who rfl
    refine ⟨fun hfound => ⟨fun howner => ?_, fun _ => hsame⟩, fun _ => hsame⟩
    rw [← howner]
    refine wp_mono addLoanCollateral_spec ?_ ?_ id
    · rintro _ _ ⟨hcov, rfl⟩
      exact .collateralAdded who loanId amount hopen hfound howner hcov
    · rintro _ _ rfl
      exact hsame
  | draw loanId amount =>
    simp only [DepositLoan.dispatch, draw, wp_bind, wp_gets, wp_ensure, wp_ensureSigned]
    refine ⟨fun hopen => ⟨?_, fun _ => hsame⟩, fun _ => hsame⟩
    rintro who rfl
    refine wp_mono drawFromLoan_spec ?_ ?_ id
    · rintro _ _ ⟨hcan, rfl⟩
      exact .drawn who loanId amount hopen hcan
    · rintro _ _ rfl
      exact hsame
  | _ => exact setting_spec rfl

/-! ### Steps -/

/-- What a step does where it returns. -/
theorem exec_effect {i : Step AccountId} :
    wp (i.exec : Prog .release AccountId Unit) (fun _ t => Effect s i true t)
      (fun _ t => Effect s i false t) True s := by
  cases i with
  | extrinsic origin call =>
    cases call with
    | depositLoan call => exact depositLoan_spec
    | genericAsset call =>
      simp only [Step.exec, MoneyPool.dispatch, wp_bind, wp_gets, wp_zoom]
      rw [wp]
      split
      · rename_i hx
        exact .ledgerCall origin call _ hx
      · rename_i e _ hx
        exact .ledgerFailed origin call _ e hx
      · trivial
    | newOracle call =>
      simp only [Step.exec, MoneyPool.dispatch, wp_zoom]
      exact wp_mono wp_trivial (fun _ _ _ => .oracleCall ..) (fun _ _ _ => .oracleCall ..) id
  | timestamp now =>
    simp only [Step.exec, wp_modify]
    exact .timed now
  | onInitialize height =>
    exact wp_mono onInitialize_spec (fun _ _ h => .hook height h) (fun _ _ h => h.elim) id
  | onFinalize height =>
    simp only [Step.exec, wp_zoom]
    exact wp_mono wp_trivial (fun _ _ _ => .aggregated ..) (fun _ _ _ => .aggregated ..) id

/-- **A step that succeeds** has one of the effects of a success. -/
theorem ok_effect {i : Step AccountId}
    (h : (i.exec : Prog .release AccountId Unit) s = .ok () s') : Effect s i true s' :=
  (wp_of_ok h).mp exec_effect

/-- **The list of effects is complete.** -/
theorem next_effect {i : Step AccountId} (h : next i s = some s') : ∃ ok, Effect s i ok s' := by
  rcases next_eq_some h with hx | ⟨e, hx⟩ | rfl
  · exact ⟨true, ok_effect hx⟩
  · exact ⟨false, (wp_of_err hx).mp exec_effect⟩
  · exact ⟨false, .unchanged i⟩

/-- Whether a step succeeds. -/
def Step.succeeds (i : Step AccountId) (s : RuntimeState AccountId) : Bool :=
  ((i.exec : Prog .release AccountId Unit) s).okState.isSome

/-- **A step has one of the effects** of its result. -/
theorem effect_of_next (h : next i s = some s') : Effect s i (i.succeeds s) s' := by
  unfold Step.succeeds
  rcases hx : (i.exec : Prog .release AccountId Unit) s with ⟨_, t⟩ | ⟨e, t⟩ | _
  · rw [next, hx] at h
    cases h
    exact ok_effect hx
  · rw [next, hx] at h
    cases h
    exact (wp_of_err hx).mp exec_effect
  · rcases next_eq_some h with hok | ⟨e, herr⟩ | rfl
    · rw [hx] at hok
      cases hok
    · rw [hx] at herr
      cases herr
    · exact .unchanged i

/-- An application that passes its checks leads to the state with the loan. -/
theorem next_applyLoan {who : AccountId} {collateralAmount loanAmount : Balance}
    (hopen : s.saving.paused = false)
    (h : s.CanApply .release who collateralAmount loanAmount) :
    next (.extrinsic (.signed who) (.depositLoan (.applyLoan collateralAmount loanAmount))) s =
      some (s.withLoan who collateralAmount loanAmount) := by
  have hok : (Step.exec (.extrinsic (.signed who)
      (.depositLoan (.applyLoan collateralAmount loanAmount))) :
      Prog .release AccountId Unit) s = .ok () (s.withLoan who collateralAmount loanAmount) := by
    refine eq_ok_of_wp ?_
    simp only [Step.exec, MoneyPool.dispatch, DepositLoan.dispatch, applyLoan, wp_bind, wp_gets,
      wp_ensure, wp_ensureSigned]
    refine ⟨fun _ => ⟨?_, fun hno => hno who rfl⟩, fun hno => hno hopen⟩
    rintro _ ⟨⟩
    exact (wp_of_ok (applyForLoan_ok h)).mpr rfl
  rw [next, hok]

end MoneyPool
