import MoneyPool.Effect

/-!
# Which calls panic

A call that panics is not refused: it never makes it into a block, and it has paid for
nothing. `MoneyPool.RuntimeState.NoPanic` lists what keeps the calls of a user from it,
operation by operation, as conditions on the state before the call, and
`MoneyPool.completes_iff` says that the list is complete. What it leaves are the
divisions: a redeem divides by a rounded quotient that is zero in an empty pool, and the
loan operations divide by prices and by products that wrap.
-/

namespace MoneyPool

open Pallet Pallet.Exec DepositLoan RuntimeState

variable {AccountId : Type} [DecidableEq AccountId] [Inhabited AccountId]

/-! ### The conditions -/

namespace RuntimeState

variable (s : RuntimeState AccountId) (who : AccountId)

/-- That a stake which passes its checks passes the rest too. -/
def StakesSafely (assetId : AssetId) (amount : Balance) : Prop :=
  amount ≠ 0 → amount ≤ s.assets.free assetId who → s.CanStake who assetId amount

/-- **When a user's call does not panic**, in a module that is not paused. -/
def NoPanic : DepositLoan.Call AccountId → Prop
  | .staking assetId amount =>
    s.saving.collectionAssetId = assetId → s.StakesSafely who assetId amount
  | .redeem assetId amount =>
    amount ≤ s.cash → s.saving.collectionAssetId = assetId →
      s.saving.totalDtoken ≠ 0 ∧ s.saving.marketDtoken / s.saving.totalDtoken ≠ 0 ∧
        (amount ≤ s.redeemable who →
          (s.paidOut who).StakesSafely who assetId (s.redeemable who - amount))
  | .applyLoan collateralAmount loanAmount =>
    loanAmount ≤ s.cash →
      ¬(s.saving.loanCap.isSome = true ∧ s.saving.loanCap.getD 0 ≤ s.saving.totalLoan) →
        if collateralAmount = 0 then loanAmount ≠ 0 → s.price * s.limit ≠ 0
        else if loanAmount = 0 then s.saving.minimumCollateral ≤ collateralAmount →
          collateralAmount ≤ s.assets.free s.saving.collateralAssetId who → s.price ≠ 0
        else collateralAmount * s.price ≠ 0
  | .draw loanId amount =>
    s.saving.loans.containsKey loanId = true → (s.saving.loans.get loanId).who = who →
      amount ≤ s.credit (s.saving.loans.get loanId) → s.drawPrice ≠ 0
  | _ => True

end RuntimeState

/-! ### Savings -/

section Savings

variable {s : RuntimeState AccountId} {who : AccountId} {assetId : AssetId} {amount : Balance}

omit [Inhabited AccountId] in
theorem completes_createStaking :
    (createStaking who assetId amount : Prog .release AccountId Unit).Completes s ↔
      s.StakesSafely who assetId amount := by
  simp only [Completes, createStaking, wp_bind, wp_gets, wp_ensure, wp_makeTransferWithEvent,
    wp_dtokenFor, wp_creditDtoken, wp_unwrap_checkedAdd, wp_modify, imp_true_iff, true_and,
    and_true, Bool.false_eq_true, false_imp_iff, not_true_eq_false, true_imp_iff, guard_holds,
    guard_then]
  refine imp_congr_right fun hne => imp_congr_right fun hcov => ?_
  constructor
  · rintro ⟨hzero, hpos⟩
    rcases eq_or_ne s.saving.totalDtoken 0 with hT | hT
    · have hd : s.dtokens amount = amount := if_pos hT
      obtain ⟨hentry, hmarket, htotal⟩ := hzero hT
      exact ⟨hne, hcov, fun h => absurd hT h, hd.symm ▸ hentry, hd.symm ▸ hmarket, htotal⟩
    · have hd : s.dtokens amount = amount * s.saving.marketDtoken / s.saving.totalDtoken :=
        if_neg hT
      obtain ⟨hmul, hentry, hmarket, htotal⟩ := hpos hT
      exact ⟨hne, hcov, fun _ => hmul, hd.symm ▸ hentry, hd.symm ▸ hmarket, htotal⟩
  · intro hcan
    refine ⟨fun hT => ?_, fun hT => ⟨hcan.product hT, ?_⟩⟩
    · have hd : s.dtokens amount = amount := if_pos hT
      exact ⟨hd ▸ hcan.entry, hd ▸ hcan.market, hcan.total⟩
    · have hd : s.dtokens amount = amount * s.saving.marketDtoken / s.saving.totalDtoken :=
        if_neg hT
      exact ⟨hd ▸ hcan.entry, hd ▸ hcan.market, hcan.total⟩

omit [Inhabited AccountId] in
/-- Paying out everything needs its two divisors. -/
theorem completes_makeRedeemAll :
    (makeRedeemAll who : Prog .release AccountId Unit).Completes s ↔
      s.saving.totalDtoken ≠ 0 ∧ s.saving.marketDtoken / s.saving.totalDtoken ≠ 0 := by
  simp only [Completes, makeRedeemAll, wp_bind, wp_gets, wp_ensure, wp_makeTransferWithEvent,
    wp_div, wp_sub, wp_modify, imp_true_iff, and_true, Bool.false_eq_true, false_imp_iff,
    not_true_eq_false, guard_holds, guard_then]

omit [Inhabited AccountId] in
/-- The first half of a redeem, once its divisors have been seen not to be zero. -/
theorem swallow_makeRedeemAll (htotal : s.saving.totalDtoken ≠ 0)
    (hratio : s.saving.marketDtoken / s.saving.totalDtoken ≠ 0) :
    (swallow (makeRedeemAll who) : Prog .release AccountId Unit) s = .ok () (s.paidOut who) := by
  refine eq_ok_of_wp ?_
  have hdone : (makeRedeemAll who : Prog .release AccountId Unit).Completes s :=
    completes_makeRedeemAll.mpr ⟨htotal, hratio⟩
  rw [wp_swallow]
  refine wp_mono (wp_and hdone makeRedeemAll_spec) ?_ ?_ And.left
  · rintro _ _ ⟨-, hcan, rfl⟩
    exact (if_pos hcan).symm
  · rintro _ _ ⟨-, hno, rfl⟩
    exact (if_neg hno).symm

omit [Inhabited AccountId] in
theorem completes_makeRedeem {accountId : AccountId} :
    (makeRedeem who assetId accountId amount : Prog .release AccountId Unit).Completes s ↔
      s.saving.totalDtoken ≠ 0 ∧ s.saving.marketDtoken / s.saving.totalDtoken ≠ 0 ∧
        (amount ≤ s.redeemable who →
          (s.paidOut who).StakesSafely who assetId (s.redeemable who - amount)) := by
  simp only [Completes, makeRedeem, wp_bind, wp_gets, wp_ensure, wp_div, wp_sub, imp_true_iff,
    true_and, and_true, Bool.false_eq_true, false_imp_iff, not_true_eq_false, true_imp_iff,
    guard_holds, guard_then]
  refine and_congr_right fun hT => and_congr_right fun hr => imp_congr_right fun _ => ?_
  rw [wp_of_ok (swallow_makeRedeemAll hT hr), wp_swallow]
  exact completes_createStaking

end Savings

/-! ### Loans -/

section Loans

variable {s : RuntimeState AccountId} {who : AccountId}
  {collateralAmount loanAmount amount : Balance}
  {loanId : LoanId} {loan : Loan AccountId}

theorem completes_applyForLoan :
    (applyForLoan who collateralAmount loanAmount : Prog .release AccountId Unit).Completes s ↔
      s.NoPanic who (.applyLoan collateralAmount loanAmount) := by
  have hprec : ofU32 ltvPrec * ofU32 pricePrec ≠ 0 := by decide
  simp only [Completes, applyForLoan, getCollateralLoan, wp_bind, wp_gets, wp_ensure,
    wp_makeTransferWithEvent, wp_getNextLoanId, wp_div, wp_sub, wp_modify, wp_mul, wp_ite, wp_pure,
    wp_addTotalLoan, wp_addTotalCollateral, imp_true_iff, true_and, and_true, Bool.false_eq_true,
    false_imp_iff, not_true_eq_false, true_imp_iff, guard_holds, guard_then, NoPanic]
  refine imp_congr_right fun _ => imp_congr_right fun _ => ?_
  -- a factor of a product that is not zero is not zero
  have hfactor : ∀ x : Balance, s.price * x ≠ 0 → s.price ≠ 0 := by
    rintro x hne hzero
    rw [hzero] at hne
    exact hne (BitVec.zero_mul ..)
  rcases eq_or_ne collateralAmount 0 with hc | hc
  · simp only [hc, true_and, not_true_eq_false, false_imp_iff, and_true, true_imp_iff, if_true]
    exact imp_congr_right fun _ => ⟨fun h => h.1, fun h => ⟨h, fun _ _ => hfactor _ h⟩⟩
  · rcases eq_or_ne loanAmount 0 with hl | hl
    · simp only [hc, hl, not_false_eq_true, true_imp_iff, false_imp_iff, true_and,
        not_true_eq_false, and_true, if_false, if_true]
      exact and_iff_right hprec
    · simp only [hc, hl, false_and, not_false_eq_true, true_imp_iff, false_imp_iff, true_and,
        if_false]
      refine ⟨fun h => h.1, fun h => ⟨h, fun _ _ _ => ?_⟩⟩
      rw [BitVec.mul_comm] at h
      exact hfactor _ h

/-- Repaying never panics. -/
theorem completes_repayForLoan :
    (repayForLoan who loanId : Prog .release AccountId Unit).Completes s := by
  simp only [Completes, repayForLoan, revertCallback, wp_bind, wp_gets, wp_ensure, wp_modify,
    wp_orElse, wp_makeTransferWithEvent, wp_subTotalLoan, wp_subTotalCollateral, wp_addTotalLoan,
    wp_addTotalCollateral, wp_fail, imp_true_iff, and_true, Bool.false_eq_true, false_imp_iff,
    not_true_eq_false]

/-- Adding collateral never panics. -/
theorem completes_addLoanCollateral :
    (addLoanCollateral loan who amount : Prog .release AccountId Unit).Completes s := by
  simp only [Completes, addLoanCollateral, wp_bind, wp_gets, wp_ensure, wp_modify,
    wp_makeTransferWithEvent, wp_add, wp_addTotalCollateral, imp_true_iff, and_true,
    Bool.false_eq_true, false_imp_iff, not_true_eq_false]

theorem completes_drawFromLoan :
    (drawFromLoan who loanId amount : Prog .release AccountId Unit).Completes s ↔
      s.NoPanic who (.draw loanId amount) := by
  have hltv : ofU32 ltvPrec ≠ 0 := by decide
  have hprice : ofU32 pricePrec ≠ 0 := by decide
  simp only [Completes, drawFromLoan, wp_bind, wp_gets, wp_ensure, wp_mul, wp_div, wp_add, wp_sub,
    wp_modify, wp_addTotalLoan, imp_true_iff, true_and, and_true, Bool.false_eq_true,
    false_imp_iff, not_true_eq_false, true_imp_iff, guard_holds, NoPanic, hltv, hprice, ne_eq,
    not_false_eq_true]
  rfl

end Loans

/-! ### Every call -/

section Calls

variable {s : RuntimeState AccountId} {who : AccountId} {call : DepositLoan.Call AccountId}

omit [DecidableEq AccountId] [Inhabited AccountId] in
/-- What all calls of a user start with. -/
theorem completes_userCall (x : AccountId → Prog .release AccountId Unit) :
    (do
      ensure ((← gets fun s => s.saving.paused) = false) (.other "module is paused")
      let who ← ensureSigned (.signed who)
      x who : Prog .release AccountId Unit).Completes s ↔
      (s.saving.paused = false → (x who).Completes s) := by
  simp only [Completes, wp_bind, wp_gets, wp_ensure, wp_ensureSigned, imp_true_iff, and_true]
  refine imp_congr_right fun _ => ⟨fun h => h who rfl, ?_⟩
  rintro h _ ⟨⟩
  exact h

/-- **No panicking dispatch.** In every state a call that an account makes on its own
behalf, with whatever arguments, returns exactly if the module is paused or the call meets
the condition of its operation. -/
theorem completes_iff (hcall : call.isUserCall = true) :
    (Step.exec (.extrinsic (.signed who) (.depositLoan call)) :
      Prog .release AccountId Unit).Completes s ↔
      (s.saving.paused = false → s.NoPanic who call) := by
  cases call with
  | staking assetId amount =>
    refine (completes_userCall fun who => stakingFor who assetId amount).trans ?_
    refine imp_congr_right fun _ => ?_
    simp only [Completes, stakingFor, wp_bind, wp_gets, wp_ensure, imp_true_iff, and_true]
    -- the balance is checked twice
    refine imp_congr_right fun _ => ⟨fun h hne hcov => ?_, fun h _ => ?_⟩
    · exact completes_createStaking.mp (h hcov) hne hcov
    · exact completes_createStaking.mpr h
  | redeem assetId amount =>
    refine (completes_userCall fun who => redeemFor who assetId amount).trans ?_
    refine imp_congr_right fun _ => ?_
    simp only [Completes, redeemFor, wp_bind, wp_gets, wp_ensure, imp_true_iff, and_true]
    refine imp_congr_right fun _ => imp_congr_right fun hasset => ?_
    rw [← hasset]
    exact completes_makeRedeem
  | applyLoan collateralAmount loanAmount =>
    refine (completes_userCall fun who => applyForLoan who collateralAmount loanAmount).trans ?_
    exact imp_congr_right fun _ => completes_applyForLoan
  | repayLoan loanId =>
    refine (completes_userCall fun who => repayForLoan who loanId).trans ?_
    exact imp_congr_right fun _ => iff_of_true completes_repayForLoan trivial
  | addCollateral loanId amount =>
    refine (completes_userCall fun who => do
      ensure ((← gets fun s => s.saving.loans.containsKey loanId) = true)
        (.other "loan doesn't exists")
      let loan ← gets fun s => s.saving.loans.get loanId
      ensure (who = loan.who) (.other "adding collateral to other's loan is not allowed")
      addLoanCollateral loan loan.who amount).trans ?_
    refine imp_congr_right fun _ => iff_of_true ?_ trivial
    simp only [Completes, wp_bind, wp_gets, wp_ensure, imp_true_iff, and_true]
    exact fun _ _ => completes_addLoanCollateral
  | draw loanId amount =>
    refine (completes_userCall fun who => drawFromLoan who loanId amount).trans ?_
    exact imp_congr_right fun _ => completes_drawFromLoan
  | _ => cases hcall

end Calls

/-- An application with all three factors of its divisors. -/
theorem completes_example : (Step.exec (signedCall 5 (.applyLoan 2 100)) :
    Prog .release ℕ Unit).Completes exampleState := by
  refine (completes_iff rfl).mpr fun _ _ _ => ?_
  rw [if_neg (by decide), if_neg (by decide)]
  decide +kernel

/-- Nobody has saved anything, and somebody redeems nothing. -/
theorem not_completes : ¬∀ s, Reachable next exampleState s →
    ∀ (who : ℕ) (call : DepositLoan.Call ℕ), call.isUserCall = true →
      (Step.exec (.extrinsic (.signed who) (.depositLoan call)) :
        Prog .release ℕ Unit).Completes s := by
  intro h
  have hdone := h exampleState .refl 5 (.redeem 0 0) rfl
  rw [completes_iff_ne_panic] at hdone
  exact hdone rfl

end MoneyPool
