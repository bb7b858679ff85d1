import MoneyPool.DepositLoan.Lending
import MoneyPool.DepositLoan.Hooks

/-!
# What a block hook does

The scan and the accrual of interest, taken apart into
`MoneyPool.RuntimeState.HookStep`s: a loan is marked with a warning, a loan is put
into liquidation, nothing is moved between two accounts, the rates are written. A
hook that completes is a sequence of these
(`MoneyPool.DepositLoan.onInitialize_spec`), so that an invariant of a single one
is an invariant of the whole hook.

The interest that is charged is always zero: the time of the last distribution is
overwritten with the current time before the time between them is taken.
-/

namespace MoneyPool

open Pallet Pallet.Exec DepositLoan

variable {AccountId : Type} [DecidableEq AccountId] [Inhabited AccountId] {β : Build}

namespace DepositLoan

/-! ### The health of a loan -/

/-- The LTV of a loan at a price, before it is narrowed. -/
def Loan.ltvQuotient (loan : Loan AccountId) (btcPrice : PriceInUSDT) : Balance :=
  loan.loanBalanceTotal * ofU32 pricePrec * ofU32 ltvPrec /
    (loan.collateralBalanceAvailable * ofU64 btcPrice)

/-- The health of a loan at a price, where its LTV can be computed. -/
def Loan.health (loan : Loan AccountId) (btcPrice : PriceInUSDT) (liquidation warning : LTV) :
    LoanHealth :=
  let ltv : LTV := (loan.ltvQuotient btcPrice).setWidth 64
  if liquidation ≤ ltv then .liquidating ltv else if warning ≤ ltv then .warning ltv else .well

variable (β) in
/-- That the LTV of a loan can be computed at a price: it has a value, the value
fits, and in a build that checks products they fit too. -/
structure Loan.HasLtv (loan : Loan AccountId) (btcPrice : PriceInUSDT) : Prop where
  divisor : loan.collateralBalanceAvailable * ofU64 btcPrice ≠ 0
  fits : (loan.ltvQuotient btcPrice).toNat < 2 ^ 64
  products : β.products = true →
    loan.loanBalanceTotal.toNat * (ofU32 pricePrec).toNat < 2 ^ 128 ∧
      (loan.loanBalanceTotal * ofU32 pricePrec).toNat * (ofU32 ltvPrec).toNat < 2 ^ 128 ∧
      loan.collateralBalanceAvailable.toNat * (ofU64 btcPrice).toNat < 2 ^ 128

/-- The storage after a loan has been put into liquidation. -/
def Store.liquidating (t : Store AccountId) (loanId : LoanId) (ltv : LTV) : Store AccountId :=
  { t with
    loans := t.loans.mutate loanId fun v => { v with status := .liquidating ltv }
    liquidatingLoans := some (t.inLiquidation ++ [loanId]) }

/-- The storage after a loan has been marked with a warning. -/
def Store.warned (t : Store AccountId) (loanId : LoanId) (ltv : LTV) : Store AccountId :=
  { t with loans := t.loans.mutate loanId fun v => { v with status := .warning ltv } }

/-- The storage after the scan has looked at a loan. -/
def Store.scanned (t : Store AccountId) (btcPrice : PriceInUSDT) (liquidation warning : LTV)
    (loanId : LoanId) : Store AccountId :=
  let loan := t.loans.get loanId
  if t.checkLoanInLiquidation loanId = true then t
  else match loan.health btcPrice liquidation warning with
    | .well => t
    | .warning ltv => if loan.status ≠ .warning ltv then t.warned loan.id ltv else t
    | .liquidating ltv => t.liquidating loanId ltv

open RuntimeState

variable {s : RuntimeState AccountId}

section Rules

variable {Q : Unit → RuntimeState AccountId → Prop}
  {E : DispatchError → RuntimeState AccountId → Prop} {P : Prop} {btcPrice : PriceInUSDT}
  {liquidation warning : LTV} {loan : Loan AccountId} {loanId : LoanId}

omit [DecidableEq AccountId] [Inhabited AccountId] in
/-- The rule of the health of a loan. -/
theorem wp_checkLoanHealth {Q : LoanHealth → RuntimeState AccountId → Prop} :
    wp (checkLoanHealth loan btcPrice liquidation warning : Prog β AccountId LoanHealth) Q E P s ↔
      (¬loan.HasLtv β btcPrice → P) ∧
        (loan.HasLtv β btcPrice → Q (loan.health btcPrice liquidation warning) s) := by
  have hiff : loan.HasLtv β btcPrice ↔
      (β.products = true →
        loan.loanBalanceTotal.toNat * (ofU32 pricePrec).toNat < 2 ^ 128) ∧
      (β.products = true →
        (loan.loanBalanceTotal * ofU32 pricePrec).toNat * (ofU32 ltvPrec).toNat < 2 ^ 128) ∧
      (β.products = true →
        loan.collateralBalanceAvailable.toNat * (ofU64 btcPrice).toNat < 2 ^ 128) ∧
      loan.collateralBalanceAvailable * ofU64 btcPrice ≠ 0 ∧
      (loan.ltvQuotient btcPrice).toNat < 2 ^ 64 :=
    ⟨fun h => ⟨fun hp => (h.products hp).1, fun hp => (h.products hp).2.1,
      fun hp => (h.products hp).2.2, h.divisor, h.fits⟩,
    fun h => ⟨h.2.2.2.1, h.2.2.2.2, fun hp => ⟨h.1 hp, h.2.1 hp, h.2.2.1 hp⟩⟩⟩
  rw [hiff]
  simp only [checkLoanHealth, getLtv, wp_bind, wp_mul, wp_div, wp_unwrap_tryInto, wp_pure,
    guard_and, Loan.health, Loan.ltvQuotient]
  exact Iff.rfl

omit [DecidableEq AccountId] in
/-- The rule of one turn of the scan. -/
theorem wp_scanLoan :
    wp (scanLoan btcPrice liquidation warning loanId : Prog β AccountId Unit) Q E P s ↔
      (¬(s.saving.checkLoanInLiquidation loanId = true ∨
          (s.saving.loans.get loanId).HasLtv β btcPrice) → P) ∧
      (s.saving.checkLoanInLiquidation loanId = true ∨
          (s.saving.loans.get loanId).HasLtv β btcPrice →
        Q () (s.withSaving fun t => t.scanned btcPrice liquidation warning loanId)) := by
  simp only [scanLoan, wp_bind, wp_gets, wp_ite, wp_pure, wp_checkLoanHealth]
  by_cases hliq : s.saving.checkLoanInLiquidation loanId = true
  · simp only [hliq, true_or, forall_const, not_true_eq_false, false_imp_iff, true_and,
      and_true, Store.scanned, if_true, withSaving]
  · simp only [hliq, false_or, forall_const, false_imp_iff, true_and, not_false_eq_true,
      Bool.false_eq_true, Store.scanned, if_false, withSaving]
    refine and_congr_right fun _ => imp_congr_right fun _ => ?_
    cases (s.saving.loans.get loanId).health btcPrice liquidation warning with
    | well => rfl
    | warning ltv =>
      simp only [recordHealth, wp_ite, wp_modify, wp_pure, withSaving]
      by_cases hst : (s.saving.loans.get loanId).status = .warning ltv
      · simp [hst]
      · simp [hst, Store.warned]
    | liquidating ltv =>
      simp only [recordHealth, liquidateLoan, wp_bind, wp_modify, wp_gets, wp_ite, withSaving]
      cases hll : s.saving.liquidatingLoans with
      | none => simp [Store.liquidating, Store.inLiquidation, hll]
      | some ids => simp [Store.liquidating, Store.inLiquidation, hll]

end Rules

omit [DecidableEq AccountId] in
/-- What the scan does about a loan that is not in liquidation. -/
theorem Store.scanned_cases (t : Store AccountId) (btcPrice : PriceInUSDT)
    (liquidation warning : LTV) (loanId : LoanId) :
    t.scanned btcPrice liquidation warning loanId = t ∨
      t.checkLoanInLiquidation loanId = false ∧ ∃ ltv,
        (t.scanned btcPrice liquidation warning loanId = t.warned (t.loans.get loanId).id ltv ∨
          t.scanned btcPrice liquidation warning loanId = t.liquidating loanId ltv) := by
  unfold scanned
  by_cases hliq : t.checkLoanInLiquidation loanId = true
  · exact Or.inl (if_pos hliq)
  · have hcalm : t.checkLoanInLiquidation loanId = false := by simpa using hliq
    simp only [if_neg hliq]
    cases (t.loans.get loanId).health btcPrice liquidation warning with
    | well => exact Or.inl rfl
    | warning ltv =>
      by_cases hst : (t.loans.get loanId).status ≠ .warning ltv
      · exact Or.inr ⟨hcalm, ltv, Or.inl (if_pos hst)⟩
      · exact Or.inl (if_neg hst)
    | liquidating ltv => exact Or.inr ⟨hcalm, ltv, Or.inr rfl⟩

end DepositLoan

/-! ### The steps of a hook -/

/-- **A step of a block hook.** -/
inductive RuntimeState.HookStep (s : RuntimeState AccountId) : RuntimeState AccountId → Prop
  /-- A loan is marked with a warning. -/
  | warned (loanId : LoanId) (ltv : LTV) (found : s.saving.loans.containsKey loanId = true)
      (calm : s.saving.checkLoanInLiquidation loanId = false) :
      HookStep s (s.withSaving fun t => t.warned (t.loans.get loanId).id ltv)
  /-- A loan is put into liquidation. -/
  | liquidating (loanId : LoanId) (ltv : LTV) (found : s.saving.loans.containsKey loanId = true)
      (calm : s.saving.checkLoanInLiquidation loanId = false) :
      HookStep s (s.withSaving fun t => t.liquidating loanId ltv)
  /-- Nothing is moved between two accounts. -/
  | charged (assetId : AssetId) (fromAccount toAccount : AccountId) :
      HookStep s { s with assets := s.assets.moved assetId fromAccount toAccount 0 }
  /-- The time of the last distribution and the rates are written. -/
  | accrued (bonusTime : Moment) (loanRate savingRate : Balance) :
      HookStep s (s.withSaving fun t => { t with
        bonusTime := bonusTime
        loanInterestRateCurrent := loanRate
        savingInterestRate := savingRate })

namespace DepositLoan

open RuntimeState Relation

variable {s : RuntimeState AccountId}

/-- A step of a hook removes no loan. -/
theorem HookStep.containsKey {s' : RuntimeState AccountId} (h : s.HookStep s') {loanId : LoanId}
    (hkey : s.saving.loans.containsKey loanId = true) :
    s'.saving.loans.containsKey loanId = true := by
  rw [StorageMap.containsKey_iff_mem] at hkey ⊢
  cases h with
  | warned => exact StorageMap.mem_keys_insert.mpr (Or.inr hkey)
  | liquidating => exact StorageMap.mem_keys_insert.mpr (Or.inr hkey)
  | charged => exact hkey
  | accrued => exact hkey

/-- One turn of the scan is a step of a hook, if it does anything. -/
theorem scanned_hookStep {loanId : LoanId} (btcPrice : PriceInUSDT) (liquidation warning : LTV)
    (hfound : s.saving.loans.containsKey loanId = true) :
    (s.withSaving fun t => t.scanned btcPrice liquidation warning loanId) = s ∨
      s.HookStep (s.withSaving fun t => t.scanned btcPrice liquidation warning loanId) := by
  rcases s.saving.scanned_cases btcPrice liquidation warning loanId with
    h | ⟨hcalm, ltv, h | h⟩
  · refine Or.inl ?_
    rw [withSaving, h]
  · refine Or.inr ?_
    rw [withSaving, h]
    exact .warned loanId ltv hfound hcalm
  · refine Or.inr ?_
    rw [withSaving, h]
    exact .liquidating loanId ltv hfound hcalm

/-- The liquidation scan is a sequence of steps of a hook. -/
theorem onEachBlock_spec {height : BlockNumber} :
    wp (onEachBlock height : Prog β AccountId Unit)
      (fun _ s' => ReflTransGen HookStep s s') (fun _ _ => False) True s := by
  simp only [onEachBlock, wp_bind, wp_gets]
  -- the loans that are there when the loop starts stay there
  refine wp_mono (wp_forEach (fun t => ReflTransGen HookStep s t ∧
    ∀ loanId ∈ s.saving.loans.keys, t.saving.loans.containsKey loanId = true) ?_
    ⟨.refl, fun _ h => StorageMap.containsKey_iff_mem.mpr h⟩) (fun _ _ h => h.1)
    (fun _ _ h => h) id
  rintro loanId hmem t ⟨hst, hkeys⟩
  rw [wp_scanLoan]
  refine ⟨fun _ => trivial, fun _ => ?_⟩
  rcases scanned_hookStep s.btcPrice s.saving.globalLiquidationThreshold
    s.saving.globalWarningThreshold (hkeys loanId hmem) with heq | hstep
  · rw [heq]
    exact ⟨hst, hkeys⟩
  · exact ⟨hst.tail hstep, fun k hk => HookStep.containsKey hstep (hkeys k hk)⟩

/-! ### Interest -/

variable (β) in
/-- That the credit of a loan can be computed: in a build that checks products, they
fit. -/
def CreditFits (s : RuntimeState AccountId) (loan : Loan AccountId) : Prop :=
  (β.products = true →
    loan.collateralBalanceAvailable.toNat * s.drawPrice.toNat < 2 ^ 128) ∧
  (β.products = true →
    (loan.collateralBalanceAvailable * s.drawPrice).toNat *
      (ofU32 (asU32 s.saving.globalLTVLimit)).toNat < 2 ^ 128)

section Rules

variable {loanId : LoanId} {Q : Unit → RuntimeState AccountId → Prop}
  {E : DispatchError → RuntimeState AccountId → Prop} {P : Prop}

/-- Drawing nothing on a loan that is there changes nothing. -/
theorem wp_drawFromLoan_zero (hfound : s.saving.loans.containsKey loanId = true) :
    wp (drawFromLoan (s.saving.loans.get loanId).who loanId 0 : Prog β AccountId Unit) Q E P s ↔
      (¬(CreditFits β s (s.saving.loans.get loanId) ∧ s.drawPrice ≠ 0) → P) ∧
        (CreditFits β s (s.saving.loans.get loanId) ∧ s.drawPrice ≠ 0 → Q () s) := by
  have hget : s.saving.loans.get? loanId = some (s.saving.loans.get loanId) :=
    StorageMap.get?_of_containsKey hfound
  have hltv : ofU32 ltvPrec ≠ 0 := by decide
  have hprice : ofU32 pricePrec ≠ 0 := by decide
  have hdiv : (0 : Balance) / ofU32 (asU32 s.btcPrice) = 0 := BitVec.zero_udiv
  have hle : ∀ x : Balance, 0 ≤ x := fun x => by simp [BitVec.le_def]
  have hfit : ∀ x : Balance, x.toNat + (0 : Balance).toNat < 2 ^ 128 := fun x => by
    simpa using x.isLt
  have hmin : ∀ x : Balance, (0 : Balance).toNat ≤ x.toNat := fun x => by simp
  simp only [drawFromLoan, wp_bind, wp_gets, wp_ensure, hfound, wp_mul, wp_div, wp_add, wp_sub,
    wp_modify, wp_addTotalLoan, hltv, hprice, hdiv, hle, hfit, hmin, add_zero, sub_zero,
    StorageMap.insert_of_get? hget, withSaving, ne_eq, not_false_eq_true, not_true_eq_false,
    false_imp_iff, true_imp_iff, imp_true_iff, true_and, and_true, guard_and, CreditFits,
    and_assoc, drawPrice]

/-- **Charging zero interest** moves nothing, in both senses. -/
theorem wp_chargeInterest_zero {assetId : AssetId} {accountId : AccountId} {totalLoan : Balance}
    (hfound : s.saving.loans.containsKey loanId = true) :
    wp (chargeInterest assetId accountId 0 totalLoan loanId : Prog β AccountId Unit) Q E P s ↔
      (¬((β.products = true → totalLoan.toNat * (ofU32 (10 ^ 8)).toNat < 2 ^ 128) ∧
          totalLoan * ofU32 (10 ^ 8) ≠ 0 ∧
          CreditFits β s (s.saving.loans.get loanId) ∧ s.drawPrice ≠ 0) → P) ∧
        ((β.products = true → totalLoan.toNat * (ofU32 (10 ^ 8)).toNat < 2 ^ 128) ∧
          totalLoan * ofU32 (10 ^ 8) ≠ 0 ∧
          CreditFits β s (s.saving.loans.get loanId) ∧ s.drawPrice ≠ 0 →
        Q () { s with
          assets := s.assets.moved assetId (s.saving.loans.get loanId).who accountId 0 }) := by
  have hdiv : ∀ x : Balance, (0 : Balance) / x = 0 := fun x => BitVec.zero_udiv
  have hpow : (10 : BitVec 32).toNat ^ 8 < 2 ^ 32 := by decide
  have hprod : ∀ x : Balance, (0 : Balance).toNat * x.toNat < 2 ^ 128 := fun x => by simp
  have hfit : ∀ x : Balance, x.toNat + (0 : Balance).toNat < 2 ^ 128 := fun x => by
    simpa using x.isLt
  have hle : ∀ x : Balance, 0 ≤ x := fun x => by simp [BitVec.le_def]
  simp only [chargeInterest, wp_bind, wp_gets, wp_mul, wp_pow, wp_div, hpow, hprod, hdiv, zero_mul,
    wp_swallow, wp_drawFromLoan_zero hfound, wp_makeTransferWithEvent, hle, hfit,
    wp_unwrap_checkedAdd, wp_modify, add_zero, withSaving, not_true_eq_false, false_imp_iff,
    true_imp_iff, imp_true_iff, true_and, and_true, guard_and, and_assoc]

end Rules

omit [Inhabited AccountId] [DecidableEq AccountId] in
/-- The interest rate is computed without a write. -/
theorem loanInterestRate_spec {x : BitVec 128} :
    wp (loanInterestRate x : Prog β AccountId (BitVec 128)) (fun _ s' => s' = s)
      (fun _ _ => False) True s := by
  simp only [loanInterestRate, wp_ite, wp_bind, wp_add, wp_div, wp_pow, wp_mul, imp_true_iff,
    and_self]

section Interest

variable {I : RuntimeState AccountId → Prop}
  (hcharged : ∀ t assetId fromAccount toAccount, I t →
    I { t with assets := t.assets.moved assetId fromAccount toAccount 0 })
  (haccrued : ∀ t bonusTime loanRate savingRate, I t → I (t.withSaving fun u => { u with
    bonusTime := bonusTime
    loanInterestRateCurrent := loanRate
    savingInterestRate := savingRate }))

include hcharged haccrued

/-- The distribution of interest, at the time of the last distribution, moves nothing
and writes the rates. -/
theorem distributeInterest_spec {assetId : AssetId} {accountId : AccountId}
    {totalLoan totalDeposit rate : Balance} {now : Moment} (hnow : now = s.saving.bonusTime)
    (h : I s) :
    wp (distributeInterest assetId accountId now totalLoan totalDeposit rate :
        Prog β AccountId Unit)
      (fun _ s' => I s') (fun _ _ => False) True s := by
  have hdiv : ∀ x : Balance, (0 : Balance) / x = 0 := fun x => BitVec.zero_udiv
  have hzero : ofU32 ((0 : Moment).setWidth 32) = 0 := by decide
  simp only [distributeInterest, hnow, wp_bind, wp_gets, wp_sub, wp_unwrap_tryInto, wp_mul, wp_div,
    wp_pow, wp_modify, sub_self, hzero, zero_mul, hdiv, imp_true_iff, true_and]
  intro _ _ _ _ _ _
  -- the loans that are there when the loop starts stay there
  refine wp_mono (wp_forEach (fun t => I t ∧
    ∀ loanId ∈ s.saving.loans.keys, t.saving.loans.containsKey loanId = true) ?_
    ⟨h, fun _ h => StorageMap.containsKey_iff_mem.mpr h⟩) ?_ (fun _ _ h => h) id
  · rintro loanId hmem t ⟨ht, hkeys⟩
    rw [wp_chargeInterest_zero (hkeys _ hmem)]
    exact ⟨fun _ => trivial, fun _ => ⟨hcharged t _ _ _ ht, hkeys⟩⟩
  · rintro _ t ⟨ht, -⟩ _ _ _ _ _
    exact haccrued t t.saving.bonusTime rate _ ht

/-- **The accrual of interest** moves nothing and writes the rates. -/
theorem calculateLoanInterestRate_spec (h : I s) :
    wp (calculateLoanInterestRate : Prog β AccountId Unit)
      (fun _ s' => I s') (fun _ _ => False) True s := by
  simp only [calculateLoanInterestRate, wp_bind, wp_gets, wp_add, wp_modify, wp_ite, wp_pure,
    wp_unwrap_checkedMul, wp_div, imp_true_iff, true_and]
  have hstep : I (s.withSaving fun t => { t with bonusTime := s.now }) :=
    haccrued s s.now s.saving.loanInterestRateCurrent s.saving.savingInterestRate h
  refine fun _ _ => ⟨fun _ _ _ => ?_, fun _ => hstep⟩
  refine wp_mono loanInterestRate_spec ?_ (fun _ _ h => h) id
  rintro rate _ rfl
  exact distributeInterest_spec hcharged haccrued rfl hstep

end Interest

/-- **The hook of a block** is a sequence of steps of a hook. -/
theorem onInitialize_spec {height : BlockNumber} :
    wp (onInitialize height : Prog β AccountId Unit)
      (fun _ s' => ReflTransGen HookStep s s') (fun _ _ => False) True s := by
  simp only [onInitialize, wp_bind, wp_gets, wp_ite, wp_pure]
  refine ⟨fun _ => ?_, fun _ => .refl⟩
  refine wp_mono onEachBlock_spec (fun _ t hst => ?_) (fun _ _ h => h) id
  exact calculateLoanInterestRate_spec (I := fun t => ReflTransGen HookStep s t)
    (fun _ _ _ _ ht => ht.tail (.charged ..)) (fun _ _ _ _ ht => ht.tail (.accrued ..)) hst

end DepositLoan

end MoneyPool
