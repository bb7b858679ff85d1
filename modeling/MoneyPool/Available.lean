import MoneyPool.FirstScan
import MoneyPool.Draws

/-!
# The collateral that is left of a loan

A loan and every draw lock a part of the collateral, the amount divided by the price, by a
subtraction that nothing guards. What guards it indirectly are the checks against the limit, each
with a rounding of its own. `MoneyPool.available_le_original` says that they are enough, whatever
wraps on the way, as long as the limit is at most 100 per cent and the amounts can be scaled: what
is left of the collateral of a loan never exceeds what has been given. -/

namespace MoneyPool

open Pallet Pallet.Exec DepositLoan RuntimeState

/-! ### What the checks say about the price -/

/-- Collateral that is worked out from a limit of at most 100 per cent is worth the amount. -/
theorem div_le_scaled_div {amount price limit : ℕ} (hlimit : limit ≤ 10 ^ 8)
    (hpos : 0 < price * limit) : amount / price ≤ amount * 10 ^ 8 / (price * limit) := by
  rw [Nat.le_div_iff_mul_le hpos]
  calc amount / price * (price * limit) = amount / price * price * limit := by ring
    _ ≤ amount * limit := Nat.mul_le_mul_right _ (Nat.div_mul_le_self ..)
    _ ≤ amount * 10 ^ 8 := Nat.mul_le_mul_left _ hlimit

/-- An amount whose ratio to a worth is below a limit of at most 100 per cent is less than the
worth, also if that is less than what the collateral is worth. -/
theorem div_le_of_ratio {amount collateral price worth limit : ℕ} (hlimit : limit ≤ 10 ^ 8)
    (hworth : worth ≤ collateral * price) (hpos : 0 < worth)
    (hratio : amount * 10 ^ 8 / worth < limit) : amount / price ≤ collateral := by
  have hscaled : amount * 10 ^ 8 < worth * 10 ^ 8 := by
    calc amount * 10 ^ 8 < limit * worth := (Nat.div_lt_iff_lt_mul hpos).mp hratio
      _ ≤ 10 ^ 8 * worth := Nat.mul_le_mul_right _ hlimit
      _ = worth * 10 ^ 8 := Nat.mul_comm ..
  have hless : amount < worth := Nat.lt_of_mul_lt_mul_right hscaled
  refine Nat.div_le_of_le_mul ?_
  rw [Nat.mul_comm]
  exact hless.le.trans hworth

variable {AccountId : Type} [DecidableEq AccountId] [Inhabited AccountId]
  {s s' s₀ : RuntimeState AccountId} {who : AccountId} {loanId : LoanId}
  {amount collateralAmount loanAmount : Balance}

omit [Inhabited AccountId] in
/-- **What a new loan locks** is part of its collateral, also if the collateral's worth wraps. -/
theorem RuntimeState.CanApply.locked_le
    (h : s.CanApply .release who collateralAmount loanAmount)
    (hlimit : s.saving.globalLTVLimit.toNat ≤ 10 ^ 8)
    (hfits : loanAmount.toNat * 10 ^ 8 < 2 ^ 128) :
    (loanAmount / s.price).toNat ≤
      (s.terms collateralAmount loanAmount).collateralAmount.toNat := by
  have hltv : (ofU32 ltvPrec).toNat = 10 ^ 4 := by decide
  have hprec : (ofU32 pricePrec).toNat = 10 ^ 4 := by decide
  have hscaled :
      (loanAmount * ofU32 ltvPrec * ofU32 pricePrec).toNat = loanAmount.toNat * 10 ^ 8 := by
    rw [BitVec.toNat_mul, BitVec.toNat_mul, hltv, hprec, Nat.mod_mul_mod, Nat.mul_assoc]
    exact Nat.mod_eq_of_lt hfits
  rw [BitVec.toNat_udiv]
  rcases eq_or_ne collateralAmount 0 with rfl | hc
  · -- the divisor of the collateral fits, and is not zero
    have hdivisor : s.price.toNat * s.limit.toNat < 2 ^ 128 := by
      rw [s.toNat_price, s.toNat_limit]
      calc s.btcPrice.toNat * s.saving.globalLTVLimit.toNat
          ≤ 2 ^ 64 * 10 ^ 8 := Nat.mul_le_mul s.btcPrice.isLt.le hlimit
        _ < 2 ^ 128 := by norm_num
    have hpos : 0 < s.price.toNat * s.limit.toNat := by
      rw [← BitVec.toNat_mul_of_lt hdivisor]
      exact toNat_pos_iff.mp (h.granted.byLoan rfl).1
    rw [terms, if_pos rfl, BitVec.toNat_udiv, hscaled, BitVec.toNat_mul_of_lt hdivisor]
    exact div_le_scaled_div (s.toNat_limit.trans_le hlimit) hpos
  · rcases eq_or_ne loanAmount 0 with rfl | hl
    · have hzero : (0 : Balance).toNat = 0 := rfl
      rw [hzero, Nat.zero_div]
      exact Nat.zero_le _
    · obtain ⟨hne, hratio, -⟩ := h.granted.both hc hl
      rw [BitVec.lt_def, BitVec.toNat_udiv, hscaled, s.toNat_limit] at hratio
      rw [terms, if_neg hc, if_neg hl]
      refine div_le_of_ratio hlimit ?_ (toNat_pos_iff.mp hne) hratio
      rw [BitVec.toNat_mul]
      exact Nat.mod_le ..

omit [DecidableEq AccountId] [Inhabited AccountId] in
/-- **What may be drawn** is worth no more than what is left, also if its worth wraps. -/
theorem toNat_credit_le {loan : Loan AccountId}
    (hlimit : s.saving.globalLTVLimit.toNat ≤ 10 ^ 8) :
    (s.credit loan).toNat ≤ loan.collateralBalanceAvailable.toNat * s.drawPrice.toNat := by
  have hltv : (ofU32 ltvPrec).toNat = 10 ^ 4 := by decide
  have hprec : (ofU32 pricePrec).toNat = 10 ^ 4 := by decide
  have hcut : (ofU32 (asU32 s.saving.globalLTVLimit)).toNat ≤ 10 ^ 8 := by
    rw [ofU32, asU32, BitVec.toNat_setWidth_of_le (by decide), BitVec.toNat_setWidth]
    exact (Nat.mod_le ..).trans hlimit
  rw [credit, BitVec.toNat_udiv, BitVec.toNat_udiv, BitVec.toNat_mul, BitVec.toNat_mul, hltv, hprec,
    Nat.div_div_eq_div_mul]
  refine Nat.div_le_of_le_mul ?_
  calc loan.collateralBalanceAvailable.toNat * s.drawPrice.toNat % 2 ^ 128 *
        (ofU32 (asU32 s.saving.globalLTVLimit)).toNat % 2 ^ 128
      ≤ loan.collateralBalanceAvailable.toNat * s.drawPrice.toNat % 2 ^ 128 *
        (ofU32 (asU32 s.saving.globalLTVLimit)).toNat := Nat.mod_le ..
    _ ≤ loan.collateralBalanceAvailable.toNat * s.drawPrice.toNat * 10 ^ 8 :=
        Nat.mul_le_mul (Nat.mod_le ..) hcut
    _ = 10 ^ 4 * 10 ^ 4 * (loan.collateralBalanceAvailable.toNat * s.drawPrice.toNat) := by ring

omit [DecidableEq AccountId] in
/-- **What a draw locks** is part of what is left. -/
theorem RuntimeState.CanDraw.locked_le (h : s.CanDraw who loanId amount)
    (hlimit : s.saving.globalLTVLimit.toNat ≤ 10 ^ 8) :
    (amount / s.drawPrice).toNat ≤
      (s.saving.loans.get loanId).collateralBalanceAvailable.toNat := by
  have hcovered := BitVec.le_def.mp h.covered
  rw [BitVec.toNat_udiv]
  refine Nat.div_le_of_le_mul ?_
  rw [Nat.mul_comm]
  exact hcovered.trans (toNat_credit_le hlimit)

/-! ### Where a loan comes from -/

variable {i : Step AccountId} {ok : Bool} {loan' : Loan AccountId}

/-- **Where a loan of the book comes from**, after a step: it was there with the same figures, or it
has been granted, or it has been given collateral, or it has been drawn on. -/
inductive LoanFrom (s : RuntimeState AccountId) (loanId : LoanId) (loan' : Loan AccountId) :
    Step AccountId → Prop
  | kept (i : Step AccountId) {loan : Loan AccountId}
      (hget : s.saving.loans.get? loanId = some loan)
      (hsame : loan' = { loan with status := loan'.status }) : LoanFrom s loanId loan' i
  | granted (who : AccountId) (collateralAmount loanAmount : Balance)
      (hopen : s.saving.paused = false)
      (h : s.CanApply .release who collateralAmount loanAmount)
      (hnew : loan' = s.newLoan who collateralAmount loanAmount) : LoanFrom s loanId loan'
        (.extrinsic (.signed who) (.depositLoan (.applyLoan collateralAmount loanAmount)))
  | collateralAdded (who : AccountId) (amount : Balance) {loan : Loan AccountId}
      (hopen : s.saving.paused = false) (hget : s.saving.loans.get? loanId = some loan)
      (howner : who = loan.who) (hcov : amount ≤ s.assets.free s.saving.collectionAssetId who)
      (hmore : loan' = { loan with
        collateralBalanceOriginal := loan.collateralBalanceOriginal + amount
        collateralBalanceAvailable := loan.collateralBalanceAvailable + amount }) :
      LoanFrom s loanId loan'
        (.extrinsic (.signed who) (.depositLoan (.addCollateral loanId amount)))
  | drawn (who : AccountId) (amount : Balance) {loan : Loan AccountId}
      (hget : s.saving.loans.get? loanId = some loan) (h : s.CanDraw who loanId amount)
      (hless : loan' = { loan with
        loanBalanceTotal := loan.loanBalanceTotal + amount
        collateralBalanceAvailable := loan.collateralBalanceAvailable - amount / s.drawPrice }) :
      LoanFrom s loanId loan' (.extrinsic (.signed who) (.depositLoan (.draw loanId amount)))

/-- A step of a hook writes statuses only. -/
theorem RuntimeState.HookStep.kept (h : s.HookStep s') (hkeys : s.saving.KeysAreIds)
    (hget : s'.saving.loans.get? loanId = some loan') : ∃ loan,
      s.saving.loans.get? loanId = some loan ∧ loan' = { loan with status := loan'.status } := by
  cases h with
  | warned k ltv hfound =>
    rw [withSaving, hkeys.warned_loans hfound ltv, StorageMap.get?_insert] at hget
    split at hget
    · rename_i hk
      cases hget
      cases hk
      exact ⟨_, StorageMap.get?_of_containsKey hfound, rfl⟩
    · exact ⟨loan', hget, rfl⟩
  | liquidating k ltv hfound =>
    rw [withSaving, Store.liquidating, StorageMap.get?_mutate] at hget
    split at hget
    · rename_i hk
      cases hget
      cases hk
      exact ⟨_, StorageMap.get?_of_containsKey hfound, rfl⟩
    · exact ⟨loan', hget, rfl⟩
  | charged => exact ⟨loan', hget, rfl⟩
  | accrued => exact ⟨loan', hget, rfl⟩

/-- **Every loan comes from somewhere.** -/
theorem Effect.loanFrom (h : Effect s i ok s') (hkeys : s.saving.KeysAreIds)
    (hget : s'.saving.loans.get? loanId = some loan') : LoanFrom s loanId loan' i := by
  have hsame (hb : s'.saving.loans = s.saving.loans) : LoanFrom s loanId loan' i :=
    .kept i (hb ▸ hget) rfl
  have hless (k : LoanId) (hb : s'.saving.loans = s.saving.loans.remove k) :
      LoanFrom s loanId loan' i := by
    rw [hb, StorageMap.get?_remove] at hget
    split at hget
    · cases hget
    · exact .kept i hget rfl
  cases h with
  | set call f hf => exact hsame (setting_loans hf)
  | redeemed who assetId amount hi hopen hcan hred =>
    obtain ⟨u, m, d, heq⟩ := hred.saving_eq
    exact hsame (by rw [heq])
  | granted who collateralAmount loanAmount hopen hcan =>
    rw [withLoan, StorageMap.get?_insert] at hget
    split at hget
    · cases hget
      exact .granted who collateralAmount loanAmount hopen hcan rfl
    · exact .kept _ hget rfl
  | repaid who k => exact hless _ rfl
  | repayReverted who k assets hopen htry =>
    refine hsame ?_
    rw [RuntimeState.repayReverted, hkeys.get htry.found,
      StorageMap.insert_of_get? (StorageMap.get?_of_containsKey htry.found)]
  | liquidated => exact hless _ rfl
  | collateralAdded who k amount hopen hfound howner hcov =>
    rw [RuntimeState.collateralAdded, hkeys.get hfound, StorageMap.get?_insert] at hget
    split at hget
    · rename_i hk
      cases hget
      cases hk
      have hloan := StorageMap.get?_of_containsKey hfound
      exact .collateralAdded who amount hopen hloan howner hcov rfl
    · exact .kept _ hget rfl
  | drawn who k amount hopen hcan =>
    rw [RuntimeState.drawn, StorageMap.get?_insert] at hget
    split at hget
    · rename_i hk
      cases hget
      cases hk
      exact .drawn who amount (StorageMap.get?_of_containsKey hcan.found) hcan rfl
    · exact .kept _ hget rfl
  | hook height hsteps =>
    -- along the steps of the hook, back to the start
    suffices hboth : s'.saving.KeysAreIds ∧ ∀ loan', s'.saving.loans.get? loanId = some loan' →
        ∃ loan, s.saving.loans.get? loanId = some loan ∧
          loan' = { loan with status := loan'.status } by
      obtain ⟨loan, hold, heq⟩ := hboth.2 loan' hget
      exact .kept _ hold heq
    clear hsame hless hget
    induction hsteps with
    | refl => exact ⟨hkeys, fun loan' hget => ⟨loan', hget, rfl⟩⟩
    | tail _ hstep ih =>
      refine ⟨hstep.keysAreIds ih.1, fun loan' hget => ?_⟩
      obtain ⟨v, hv, heq⟩ := hstep.kept ih.1 hget
      obtain ⟨loan, hold, heq'⟩ := ih.2 v hv
      refine ⟨loan, hold, ?_⟩
      rw [heq, heq']
  | _ => exact hsame rfl

/-! ### What is left is part of what was given -/

/-- **What is left of the collateral of every loan** is part of what has been given. -/
def DepositLoan.Store.WithinCollateral (t : DepositLoan.Store AccountId) : Prop :=
  ∀ loanId loan, t.loans.get? loanId = some loan →
    loan.collateralBalanceAvailable ≤ loan.collateralBalanceOriginal

/-- **When a step keeps the collateral in bounds**: the limit is at most 100 per cent, the amount of
a loan that is granted can be scaled, and collateral that is added does not come round. -/
structure RuntimeState.KeepsAvailable (s : RuntimeState AccountId) (i : Step AccountId) : Prop where
  limit : s.saving.globalLTVLimit.toNat ≤ 10 ^ 8
  amounts : ∀ who collateralAmount loanAmount,
    i = .extrinsic (.signed who) (.depositLoan (.applyLoan collateralAmount loanAmount)) →
      s.saving.paused = false → s.CanApply .release who collateralAmount loanAmount →
        loanAmount.toNat * 10 ^ 8 < 2 ^ 128
  additions : ∀ who loanId amount loan,
    i = .extrinsic (.signed who) (.depositLoan (.addCollateral loanId amount)) →
      s.saving.paused = false → s.saving.loans.get? loanId = some loan → who = loan.who →
        amount ≤ s.assets.free s.saving.collectionAssetId who →
          loan.collateralBalanceOriginal.toNat + amount.toNat < 2 ^ 128

/-- **A step in bounds** leaves what is left within what has been given. -/
theorem LoanFrom.withinCollateral (h : LoanFrom s loanId loan' i) (hi : s.KeepsAvailable i)
    (hwithin : s.saving.WithinCollateral) :
    loan'.collateralBalanceAvailable ≤ loan'.collateralBalanceOriginal := by
  cases h with
  | @kept _ loan hget hsame =>
    have hle := hwithin loanId loan hget
    rw [hsame]
    exact hle
  | granted who collateralAmount loanAmount hopen hcan hnew =>
    rw [hnew]
    exact sub_le_of_toNat_le (hcan.locked_le hi.limit (hi.amounts _ _ _ rfl hopen hcan))
  | @collateralAdded who amount loan hopen hget howner hcov hmore =>
    have hle := BitVec.le_def.mp (hwithin loanId loan hget)
    have hfits := hi.additions _ _ _ loan rfl hopen hget howner hcov
    rw [hmore, BitVec.le_def, BitVec.toNat_add_of_lt hfits, BitVec.toNat_add_of_lt (by omega)]
    omega
  | @drawn who amount loan hget hcan hless =>
    have hlocked := hcan.locked_le hi.limit
    rw [StorageMap.get_of_get? hget] at hlocked
    rw [hless]
    exact BitVec.le_trans (sub_le_of_toNat_le hlocked) (hwithin loanId loan hget)

/-- **Available collateral never wraps.** In every state reached by steps in bounds what is left of
the collateral of a loan is at most what has been given, and neither a loan nor a draw that passes
its checks locks more than there is. -/
theorem available_le_original {config : GenesisConfig AccountId} (hgenesis : config.build = some s₀)
    (hreach : Reach next (fun s i => s.KeepsAvailable i) s₀ s) :
    (∀ loanId loan, s.saving.loans.get? loanId = some loan →
      loan.collateralBalanceAvailable ≤ loan.collateralBalanceOriginal) ∧
    (∀ who collateralAmount loanAmount, s.saving.globalLTVLimit.toNat ≤ 10 ^ 8 →
      loanAmount.toNat * 10 ^ 8 < 2 ^ 128 → s.CanApply .release who collateralAmount loanAmount →
        loanAmount / s.price ≤ (s.terms collateralAmount loanAmount).collateralAmount) ∧
    ∀ who loanId amount, s.saving.globalLTVLimit.toNat ≤ 10 ^ 8 → s.CanDraw who loanId amount →
      amount / s.drawPrice ≤ (s.saving.loans.get loanId).collateralBalanceAvailable := by
  refine ⟨?_, fun who collateralAmount loanAmount hlimit hfits hcan => ?_,
    fun who loanId amount hlimit hcan => ?_⟩
  · refine invariant_of_reach (I := fun s => s.saving.WithinCollateral) hgenesis hreach ?_ ?_
    · rw [config.saving_of_build hgenesis]
      exact fun _ _ h => (Option.some_ne_none _ h.symm).elim
    · intro s i ok s' heff _ hkeys hi hwithin loanId loan' hget
      exact (heff.loanFrom hkeys hget).withinCollateral hi hwithin
  · exact BitVec.le_def.mpr (hcan.locked_le hlimit hfits)
  · exact BitVec.le_def.mpr (hcan.locked_le hlimit)

/-- A loan of 100 on 3. -/
theorem available_le_original_example : ∃ s,
    next (signedCall 5 (.applyLoan 3 100)) exampleState = some s ∧
      ∀ loanId loan, s.saving.loans.get? loanId = some loan →
        loan.collateralBalanceAvailable ≤ loan.collateralBalanceOriginal := by
  obtain ⟨s, hnext, -⟩ := exists_of_any (p := fun _ => True)
    (o := next (signedCall 5 (.applyLoan 3 100)) exampleState) (by decide +kernel)
  refine ⟨s, hnext, (available_le_original exampleConfig_build (Reach.refl.tail ?_ hnext)).1⟩
  refine ⟨by decide +kernel, ?_, fun _ _ _ _ h => nomatch h⟩
  rintro _ _ _ ⟨⟩ _ _
  decide

end MoneyPool
