import MoneyPool.Draws

/-!
# More collateral, a better price

The LTV of a loan is a quotient that is rounded down, and its health compares the LTV with two
thresholds, the higher severity first. Both are monotone: what falls when the collateral or the
price rises or when the amount of the loan falls, is first the LTV, and with it the severity,
whatever the thresholds are and in whichever order they stand (`MoneyPool.health_monotone`). So
collateral that is added to a loan triggers no liquidation (`MoneyPool.addLoanCollateral_severity`).
-/

namespace MoneyPool

open Pallet Pallet.Exec DepositLoan

variable {AccountId : Type} [DecidableEq AccountId] [Inhabited AccountId] {β : Build}

/-! ### Severity -/

/-- **How bad** the health of a loan is. -/
def DepositLoan.LoanHealth.severity : LoanHealth → ℕ
  | .well => 0
  | .warning _ => 1
  | .liquidating _ => 2

/-- The health that an LTV stands for. -/
def DepositLoan.LoanHealth.ofLtv (liquidation warning ltv : LTV) : LoanHealth :=
  if liquidation ≤ ltv then .liquidating ltv else if warning ≤ ltv then .warning ltv else .well

/-- **A higher LTV is no better**, for any two thresholds. -/
theorem severity_ofLtv_mono (liquidation warning : LTV) {ltv ltv' : LTV} (hle : ltv ≤ ltv') :
    (LoanHealth.ofLtv liquidation warning ltv).severity ≤
      (LoanHealth.ofLtv liquidation warning ltv').severity := by
  by_cases hliquidation : liquidation ≤ ltv
  · rw [LoanHealth.ofLtv, if_pos hliquidation, LoanHealth.ofLtv,
      if_pos (BitVec.le_trans hliquidation hle)]
    exact le_rfl
  by_cases hwarning : warning ≤ ltv
  · rw [LoanHealth.ofLtv, if_neg hliquidation, if_pos hwarning, LoanHealth.ofLtv,
      if_pos (BitVec.le_trans hwarning hle)]
    -- the higher LTV may have reached the other threshold as well
    split
    · exact Nat.le_succ 1
    · exact le_rfl
  · rw [LoanHealth.ofLtv, if_neg hliquidation, if_neg hwarning]
    exact Nat.zero_le _

/-- Nothing else is as severe as a liquidation. -/
theorem exists_liquidating {health : LoanHealth} (h : 2 ≤ health.severity) :
    ∃ ltv, health = .liquidating ltv := by
  cases health with
  | well => exact absurd h (by decide)
  | warning ltv => exact absurd h (Nat.not_le.mpr (Nat.lt_succ_self 1))
  | liquidating ltv => exact ⟨ltv, rfl⟩

/-! ### Loan-to-value -/

/-- **Nothing comes round** in the LTV of some figures, and there is something to divide by. -/
structure LtvFits (collateralAmount loanAmount : Balance) (btcPrice : PriceInUSDT) : Prop where
  collateral : collateralAmount ≠ 0
  price : btcPrice ≠ 0
  amount : loanAmount.toNat * 10 ^ 8 < 2 ^ 128
  worth : collateralAmount.toNat * btcPrice.toNat < 2 ^ 128
  ltv : loanAmount.toNat * 10 ^ 8 / (collateralAmount.toNat * btcPrice.toNat) < 2 ^ 64

section Ltv

variable {collateralAmount collateralAmount' loanAmount loanAmount' : Balance}
  {btcPrice btcPrice' : PriceInUSDT} {s : RuntimeState AccountId}

/-- What the collateral is worth, is not nothing. -/
theorem LtvFits.worth_pos (h : LtvFits collateralAmount loanAmount btcPrice) :
    0 < collateralAmount.toNat * btcPrice.toNat := by
  have hcollateral : 0 < collateralAmount.toNat := toNat_pos_iff.mp h.collateral
  have hprice : 0 < btcPrice.toNat := toNat_pos_iff.mp h.price
  exact Nat.mul_pos hcollateral hprice

/-- **The quotient falls** as the figures get better. -/
theorem LtvFits.quotient_le (h : LtvFits collateralAmount loanAmount btcPrice)
    (hcollateral : collateralAmount ≤ collateralAmount') (hprice : btcPrice ≤ btcPrice')
    (hamount : loanAmount' ≤ loanAmount) :
    loanAmount'.toNat * 10 ^ 8 / (collateralAmount'.toNat * btcPrice'.toNat) ≤
      loanAmount.toNat * 10 ^ 8 / (collateralAmount.toNat * btcPrice.toNat) := by
  refine Nat.div_le_div ?_ ?_ h.worth_pos.ne'
  · exact Nat.mul_le_mul_right _ (BitVec.le_def.mp hamount)
  · exact Nat.mul_le_mul (BitVec.le_def.mp hcollateral) (BitVec.le_def.mp hprice)

/-- Better figures fit too, if the worth of the collateral does. -/
theorem LtvFits.of_better (h : LtvFits collateralAmount loanAmount btcPrice)
    (hcollateral : collateralAmount ≤ collateralAmount') (hprice : btcPrice ≤ btcPrice')
    (hamount : loanAmount' ≤ loanAmount)
    (hworth : collateralAmount'.toNat * btcPrice'.toNat < 2 ^ 128) :
    LtvFits collateralAmount' loanAmount' btcPrice' where
  collateral := by
    have hpos : 0 < collateralAmount.toNat := toNat_pos_iff.mp h.collateral
    exact toNat_pos_iff.mpr (hpos.trans_le (BitVec.le_def.mp hcollateral))
  price := by
    have hpos : 0 < btcPrice.toNat := toNat_pos_iff.mp h.price
    exact toNat_pos_iff.mpr (hpos.trans_le (BitVec.le_def.mp hprice))
  amount := lt_of_le_of_lt (Nat.mul_le_mul_right _ (BitVec.le_def.mp hamount)) h.amount
  worth := hworth
  ltv := lt_of_le_of_lt (h.quotient_le hcollateral hprice hamount) h.ltv

omit [DecidableEq AccountId] [Inhabited AccountId] in
/-- **What `get_ltv` computes** where nothing comes round, in every build. -/
theorem LtvFits.getLtv (h : LtvFits collateralAmount loanAmount btcPrice) : ∃ ltv,
    (getLtv collateralAmount loanAmount btcPrice : Prog β AccountId LTV) s = .ok ltv s ∧
      ltv.toNat = loanAmount.toNat * 10 ^ 8 / (collateralAmount.toNat * btcPrice.toNat) := by
  obtain ⟨h1, h2, hamount⟩ := RuntimeState.scaled_fits h.amount
  have hfits : collateralAmount.toNat * (ofU64 btcPrice).toNat < 2 ^ 128 := by
    rw [toNat_ofU64]
    exact h.worth
  have hworth : (collateralAmount * ofU64 btcPrice).toNat =
      collateralAmount.toNat * btcPrice.toNat := by
    rw [BitVec.toNat_mul_of_lt hfits, toNat_ofU64]
  have hne : collateralAmount * ofU64 btcPrice ≠ 0 :=
    ne_zero_iff.mpr (by rw [hworth]; exact h.worth_pos.ne')
  have hquotient : (loanAmount * ofU32 pricePrec * ofU32 ltvPrec /
      (collateralAmount * ofU64 btcPrice)).toNat =
        loanAmount.toNat * 10 ^ 8 / (collateralAmount.toNat * btcPrice.toNat) := by
    rw [BitVec.toNat_udiv, hamount, hworth]
  have hspec : wp (DepositLoan.getLtv collateralAmount loanAmount btcPrice : Prog β AccountId LTV)
      (fun ltv t => t = s ∧ ltv.toNat =
        loanAmount.toNat * 10 ^ 8 / (collateralAmount.toNat * btcPrice.toNat))
      (fun _ _ => False) False s := by
    simp only [DepositLoan.getLtv, wp_bind, wp_mul, wp_div, wp_unwrap_tryInto, h1, h2, hfits,
      hquotient, h.ltv, hne, ne_eq, not_false_iff, imp_true_iff, not_true_eq_false, false_imp_iff,
      true_imp_iff, true_and]
    rw [BitVec.toNat_setWidth, hquotient, Nat.mod_eq_of_lt h.ltv]
  obtain ⟨ltv, _, hx, rfl, hltv⟩ := exists_ok_of_wp hspec
  exact ⟨ltv, hx, hltv⟩

omit [DecidableEq AccountId] [Inhabited AccountId] in
/-- The health of a loan is that of its LTV. -/
theorem checkLoanHealth_of_getLtv {loan : Loan AccountId} {ltv : LTV}
    (h : (getLtv loan.collateralBalanceAvailable loan.loanBalanceTotal btcPrice :
      Prog β AccountId LTV) s = .ok ltv s) (liquidation warning : LTV) :
    (checkLoanHealth loan btcPrice liquidation warning : Prog β AccountId LoanHealth) s =
      .ok (.ofLtv liquidation warning ltv) s := by
  rw [checkLoanHealth, bind_apply, h]
  rfl

end Ltv

/-! ### Better figures -/

section Better

variable {collateralAmount collateralAmount' loanAmount loanAmount' : Balance}
  {btcPrice btcPrice' : PriceInUSDT} {loan loan' : Loan AccountId}

omit [DecidableEq AccountId] [Inhabited AccountId] in
/-- **The LTV is monotone**: it does not rise as the figures get better. -/
theorem LtvFits.getLtv_le (h : LtvFits collateralAmount loanAmount btcPrice)
    (hcollateral : collateralAmount ≤ collateralAmount') (hprice : btcPrice ≤ btcPrice')
    (hamount : loanAmount' ≤ loanAmount)
    (hworth : collateralAmount'.toNat * btcPrice'.toNat < 2 ^ 128)
    (s s' : RuntimeState AccountId) : ∃ ltv ltv',
      (DepositLoan.getLtv collateralAmount loanAmount btcPrice : Prog β AccountId LTV) s =
        .ok ltv s ∧
      (DepositLoan.getLtv collateralAmount' loanAmount' btcPrice' : Prog β AccountId LTV) s' =
        .ok ltv' s' ∧ ltv' ≤ ltv := by
  obtain ⟨ltv, hx, hltv⟩ := h.getLtv (β := β) (s := s)
  obtain ⟨ltv', hx', hltv'⟩ :=
    (h.of_better hcollateral hprice hamount hworth).getLtv (β := β) (s := s')
  refine ⟨ltv, ltv', hx, hx', BitVec.le_def.mpr ?_⟩
  rw [hltv, hltv']
  exact h.quotient_le hcollateral hprice hamount

omit [DecidableEq AccountId] [Inhabited AccountId] in
/-- **Health is monotone.** Where nothing comes round, neither the LTV of a loan nor the severity of
its health rises as its collateral or the price rises or its amount falls, whatever the thresholds
are. So a loan that is not liquidated is not liquidated then either. -/
theorem health_monotone (s s' : RuntimeState AccountId) (liquidation warning : LTV)
    (hfits : LtvFits loan.collateralBalanceAvailable loan.loanBalanceTotal btcPrice)
    (hfits' : LtvFits loan'.collateralBalanceAvailable loan'.loanBalanceTotal btcPrice')
    (hcollateral : loan.collateralBalanceAvailable ≤ loan'.collateralBalanceAvailable)
    (hprice : btcPrice ≤ btcPrice') (hamount : loan'.loanBalanceTotal ≤ loan.loanBalanceTotal) :
    ∃ ltv ltv' health health',
      (getLtv loan.collateralBalanceAvailable loan.loanBalanceTotal btcPrice :
        Prog β AccountId LTV) s = .ok ltv s ∧
      (getLtv loan'.collateralBalanceAvailable loan'.loanBalanceTotal btcPrice' :
        Prog β AccountId LTV) s' = .ok ltv' s' ∧
      ltv' ≤ ltv ∧
      (checkLoanHealth loan btcPrice liquidation warning : Prog β AccountId LoanHealth) s =
        .ok health s ∧
      (checkLoanHealth loan' btcPrice' liquidation warning : Prog β AccountId LoanHealth) s' =
        .ok health' s' ∧
      health'.severity ≤ health.severity ∧
      ((∀ l, health ≠ .liquidating l) → ∀ l, health' ≠ .liquidating l) := by
  obtain ⟨ltv, ltv', hx, hx', hle⟩ :=
    hfits.getLtv_le (β := β) hcollateral hprice hamount hfits'.worth s s'
  have hseverity := severity_ofLtv_mono liquidation warning hle
  refine ⟨ltv, ltv', _, _, hx, hx', hle, checkLoanHealth_of_getLtv hx liquidation warning,
    checkLoanHealth_of_getLtv hx' liquidation warning, hseverity, fun hno l heq => ?_⟩
  rw [heq] at hseverity
  obtain ⟨l', hl'⟩ := exists_liquidating hseverity
  exact hno l' hl'

/-- A loan of 60 with some collateral. -/
def exampleLoan (collateralAmount : Balance) : Loan ℕ :=
  { (default : Loan ℕ) with
    collateralBalanceAvailable := collateralAmount
    loanBalanceTotal := 60 }

/-- The loan with one unit of collateral and with two. -/
theorem health_monotone_example : ∃ health health',
    (checkLoanHealth (exampleLoan 1) 650000 9000 8000 : Prog .release ℕ LoanHealth) exampleState =
      .ok health exampleState ∧
    (checkLoanHealth (exampleLoan 2) 650000 9000 8000 : Prog .release ℕ LoanHealth) exampleState =
      .ok health' exampleState ∧ health'.severity ≤ health.severity := by
  have hfits : LtvFits (exampleLoan 1).collateralBalanceAvailable (exampleLoan 1).loanBalanceTotal
      650000 := ⟨by decide, by decide, by decide, by decide, by decide⟩
  have hfits' : LtvFits (exampleLoan 2).collateralBalanceAvailable (exampleLoan 2).loanBalanceTotal
      650000 := ⟨by decide, by decide, by decide, by decide, by decide⟩
  obtain ⟨_, _, health, health', -, -, -, hx, hx', hle, -⟩ :=
    health_monotone (β := .release) exampleState exampleState 9000 8000 hfits hfits' (by decide)
      (by decide) (by decide)
  exact ⟨health, health', hx, hx', hle⟩

/-- **Adding collateral triggers no liquidation**, if the worth of the collateral still fits. -/
theorem addLoanCollateral_severity (liquidation warning : LTV) {s s' : RuntimeState AccountId}
    {sender : AccountId} {amount : Balance}
    (hx : (addLoanCollateral loan sender amount : Prog β AccountId Unit) s =
      .ok () s')
    (hfits : LtvFits (s.saving.loans.get loan.id).collateralBalanceAvailable
      (s.saving.loans.get loan.id).loanBalanceTotal s.btcPrice)
    (hworth : ((s.saving.loans.get loan.id).collateralBalanceAvailable.toNat + amount.toNat) *
      s.btcPrice.toNat < 2 ^ 128) :
    ∃ health health',
      (checkLoanHealth (s.saving.loans.get loan.id) s.btcPrice liquidation warning :
        Prog β AccountId LoanHealth) s = .ok health s ∧
      (checkLoanHealth (s'.saving.loans.get loan.id) s'.btcPrice liquidation warning :
        Prog β AccountId LoanHealth) s' = .ok health' s' ∧
      health'.severity ≤ health.severity := by
  obtain ⟨-, rfl⟩ := (wp_of_ok hx).mp addLoanCollateral_spec
  have hprice : (s.collateralAdded loan sender amount).btcPrice = s.btcPrice := by
    simp only [RuntimeState.btcPrice, RuntimeState.collateralAdded,
      GenericAsset.Store.moved_symbols]
  have hget : (s.collateralAdded loan sender amount).saving.loans.get loan.id =
      { s.saving.loans.get loan.id with
        collateralBalanceOriginal :=
          (s.saving.loans.get loan.id).collateralBalanceOriginal + amount
        collateralBalanceAvailable :=
          (s.saving.loans.get loan.id).collateralBalanceAvailable + amount } := by
    simp only [RuntimeState.collateralAdded, StorageMap.get_insert, if_true]
  -- the price is not zero, and so the sum fits where the worth does
  have hpos : 0 < s.btcPrice.toNat := toNat_pos_iff.mp hfits.price
  have hsum : (s.saving.loans.get loan.id).collateralBalanceAvailable.toNat + amount.toNat <
      2 ^ 128 := lt_of_le_of_lt (Nat.le_mul_of_pos_right _ hpos) hworth
  have hmore : ((s.saving.loans.get loan.id).collateralBalanceAvailable + amount).toNat =
      (s.saving.loans.get loan.id).collateralBalanceAvailable.toNat + amount.toNat :=
    BitVec.toNat_add_of_lt hsum
  have hrises : (s.saving.loans.get loan.id).collateralBalanceAvailable ≤
      (s.saving.loans.get loan.id).collateralBalanceAvailable + amount :=
    BitVec.le_def.mpr (hmore ▸ Nat.le_add_right _ _)
  rw [← hmore] at hworth
  obtain ⟨ltv, ltv', hltv, hltv', hle⟩ := hfits.getLtv_le (β := β) hrises (BitVec.le_refl _)
    (BitVec.le_refl _) hworth s (s.collateralAdded loan sender amount)
  rw [hprice, hget]
  exact ⟨_, _, checkLoanHealth_of_getLtv hltv liquidation warning,
    checkLoanHealth_of_getLtv hltv' liquidation warning, severity_ofLtv_mono _ _ hle⟩

end Better

end MoneyPool
