import MoneyPool.Scan

/-!
# Whether the accrual of interest gets through

At the start of every block the accrual of interest computes with the figures of the pool: the
cash, the total of the loans, the price. Nothing guards its divisors and its products, and it
runs in a hook, so that a single one of them stops the chain.
`MoneyPool.RuntimeState.InterestFits` lists what the figures have to be like, and
`MoneyPool.accrual_completes` says that the list is complete. It is in what follows about a build
in which the sums wrap and a product or a power that overflows panics.
-/

namespace MoneyPool

open Pallet Pallet.Exec DepositLoan RuntimeState

variable {AccountId : Type} [DecidableEq AccountId] [Inhabited AccountId]

/-! ### The figures of the pool -/

namespace RuntimeState

variable (s : RuntimeState AccountId)

/-- What has been deposited: the cash and the loans, as far as a balance holds the sum. -/
def totalDeposit : ℕ := (s.cash.toNat + s.saving.totalLoan.toNat) % 2 ^ 128

/-- What the utilisation is measured against, in which the loans count twice. -/
def pool : ℕ := (s.totalDeposit + s.saving.totalLoan.toNat) % 2 ^ 128

/-- **What charging a loan needs**, although it charges nothing: the total of the loans is not
zero, the price is not zero when it is cut to 32 bits, and the credit of the loan fits. -/
structure ChargeFits (loan : Loan AccountId) : Prop where
  total : s.saving.totalLoan.toNat ≠ 0
  price : s.btcPrice.toNat % 2 ^ 32 ≠ 0
  worth : loan.collateralBalanceAvailable.toNat * (s.btcPrice.toNat % 2 ^ 32) < 2 ^ 128
  credit : loan.collateralBalanceAvailable.toNat * (s.btcPrice.toNat % 2 ^ 32) *
    (s.saving.globalLTVLimit.toNat % 2 ^ 32) < 2 ^ 128

/-- **What the accrual of interest needs**, unless the pool is empty: the total of the loans
fits with eight decimal places, the utilisation is below four, what has been deposited is not
zero when it is cut to 32 bits, and every loan can be charged. -/
structure InterestFits : Prop where
  total : s.saving.totalLoan.toNat * 10 ^ 8 < 2 ^ 128
  utilization : s.saving.totalLoan.toNat < 4 * s.pool
  deposit : s.totalDeposit % 2 ^ 32 ≠ 0
  charges : ∀ loanId loan, s.saving.loans.get? loanId = some loan → s.ChargeFits loan

/-- **When the accrual of interest gets through**: the pool is empty, or its figures fit. -/
def AccrualFits : Prop := s.pool = 0 ∨ s.InterestFits

end RuntimeState

variable {s : RuntimeState AccountId}

/-! ### The rate -/

omit [DecidableEq AccountId] [Inhabited AccountId] in
/-- **The interest rate** can be computed exactly if the utilisation is below four, because the
power in the other branch is too large. -/
theorem completes_loanInterestRate {x : BitVec 128} {Q : BitVec 128 → RuntimeState AccountId → Prop}
    {E : DispatchError → RuntimeState AccountId → Prop} :
    wp (loanInterestRate x : Prog .productsOnly AccountId (BitVec 128)) Q E False s ↔
      x.toNat < 400000000 ∧ Q ((x + 50000000) / 10) s := by
  have hten : (10 : BitVec 128) ≠ 0 := by decide
  have hlt : x < 400000000 ↔ x.toNat < 400000000 := by
    rw [BitVec.lt_def]
    rfl
  rcases Nat.lt_or_ge x.toNat 400000000 with h | h
  · simp only [loanInterestRate, if_pos (hlt.mpr h), wp_bind, wp_add, wp_div, Bool.false_eq_true,
      false_imp_iff, not_true_eq_false, true_imp_iff, true_and, ne_eq, hten, not_false_eq_true, h]
  · refine iff_of_false ?_ fun hand => absurd hand.1 (Nat.not_lt.mpr h)
    have hge : ¬x < 400000000 := fun hno => absurd (hlt.mp hno) (Nat.not_lt.mpr h)
    have hle : (80000000 : BitVec 128) ≤ x := by
      have hval : (80000000 : BitVec 128).toNat = 80000000 := rfl
      rw [BitVec.le_def, hval]
      omega
    have hpow : ¬x.toNat ^ 6 < 2 ^ 128 := by
      refine Nat.not_lt.mpr (le_trans ?_ (Nat.pow_le_pow_left h 6))
      norm_num
    intro hwp
    rw [loanInterestRate, wp_ite, wp_ite] at hwp
    have hpowers := (hwp.2 hge).1 hle
    rw [wp_bind, wp_pow] at hpowers
    exact hpowers.1 fun hno => hpow (hno rfl)

/-! ### The charges -/

/-- **Charging nothing** to all loans completes exactly if every loan can be charged. -/
theorem completes_charges {assetId : AssetId} {accountId : AccountId} {ids : List LoanId}
    (hfound : ∀ loanId ∈ ids, s.saving.loans.containsKey loanId = true) :
    (forEach ids (chargeInterest assetId accountId 0 s.saving.totalLoan) :
      Prog .productsOnly AccountId Unit).Completes s ↔
    ∀ loanId ∈ ids, s.saving.totalLoan.toNat * (ofU32 (10 ^ 8)).toNat < 2 ^ 128 ∧
      s.saving.totalLoan * ofU32 (10 ^ 8) ≠ 0 ∧
      CreditFits .productsOnly s (s.saving.loans.get loanId) ∧ s.drawPrice ≠ 0 := by
  -- nothing but the ledger changes, and of it no symbol
  refine completes_forEach_iff
    (fun t : RuntimeState AccountId => t.saving = s.saving ∧ t.drawPrice = s.drawPrice)
    (fun loanId => s.saving.totalLoan.toNat * (ofU32 (10 ^ 8)).toNat < 2 ^ 128 ∧
      s.saving.totalLoan * ofU32 (10 ^ 8) ≠ 0 ∧
      CreditFits .productsOnly s (s.saving.loans.get loanId) ∧ s.drawPrice ≠ 0) ?_ ?_ ⟨rfl, rfl⟩
  · rintro loanId hmem t ⟨hsaving, hprice⟩
    have hkey : t.saving.loans.containsKey loanId = true := by
      rw [hsaving]
      exact hfound loanId hmem
    rw [wp_chargeInterest_zero hkey]
    refine ⟨fun _ => trivial, fun _ => ⟨hsaving, ?_⟩⟩
    rw [← hprice]
    simp only [drawPrice, btcPrice, GenericAsset.Store.moved_symbols]
  · rintro loanId hmem t ⟨hsaving, hprice⟩
    have hkey : t.saving.loans.containsKey loanId = true := by
      rw [hsaving]
      exact hfound loanId hmem
    rw [Completes, wp_chargeInterest_zero hkey, CreditFits, CreditFits, hsaving, hprice]
    simp only [true_imp_iff, imp_true_iff, and_true, imp_false, not_not]

omit [Inhabited AccountId] [DecidableEq AccountId] in
/-- The price of a draw is the price cut to 32 bits. -/
theorem toNat_drawPrice : s.drawPrice.toNat = s.btcPrice.toNat % 2 ^ 32 := by
  rw [drawPrice, ofU32, asU32, BitVec.toNat_setWidth_of_le (by decide), BitVec.toNat_setWidth]

omit [Inhabited AccountId] [DecidableEq AccountId] in
/-- What a charge checks, in numbers. -/
theorem chargeFits_iff {loan : Loan AccountId}
    (htotal : s.saving.totalLoan.toNat * 10 ^ 8 < 2 ^ 128) :
    (s.saving.totalLoan.toNat * (ofU32 (10 ^ 8)).toNat < 2 ^ 128 ∧
      s.saving.totalLoan * ofU32 (10 ^ 8) ≠ 0 ∧ CreditFits .productsOnly s loan ∧
      s.drawPrice ≠ 0) ↔ s.ChargeFits loan := by
  have hprec : (ofU32 (10 ^ 8)).toNat = 10 ^ 8 := by decide
  have hproduct : (s.saving.totalLoan * ofU32 (10 ^ 8)).toNat =
      s.saving.totalLoan.toNat * 10 ^ 8 := by
    rw [BitVec.toNat_mul, hprec, Nat.mod_eq_of_lt htotal]
  have hlimit : (ofU32 (asU32 s.saving.globalLTVLimit)).toNat =
      s.saving.globalLTVLimit.toNat % 2 ^ 32 := by
    rw [ofU32, asU32, BitVec.toNat_setWidth_of_le (by decide), BitVec.toNat_setWidth]
  rw [ne_zero_iff, ne_zero_iff, hproduct, hprec, toNat_drawPrice, CreditFits, hlimit,
    toNat_drawPrice]
  simp only [true_imp_iff]
  constructor
  · rintro ⟨-, hloans, ⟨hworth, hcredit⟩, hprice⟩
    rw [BitVec.toNat_mul, toNat_drawPrice, Nat.mod_eq_of_lt hworth] at hcredit
    exact ⟨left_ne_zero_of_mul hloans, hprice, hworth, hcredit⟩
  · intro h
    refine ⟨htotal, mul_ne_zero h.total (by decide), ⟨h.worth, ?_⟩, h.price⟩
    rw [BitVec.toNat_mul, toNat_drawPrice, Nat.mod_eq_of_lt h.worth]
    exact h.credit

section Distribution

variable {β : Build} {assetId : AssetId} {accountId : AccountId}

/-- Charging nothing to loans that are there returns no error. -/
theorem charges_spec {totalLoan : Balance} {ids : List LoanId}
    (hfound : ∀ loanId ∈ ids, s.saving.loans.containsKey loanId = true) :
    wp (forEach ids (chargeInterest assetId accountId 0 totalLoan) : Prog β AccountId Unit)
      (fun _ _ => True) (fun _ _ => False) True s := by
  -- the loans stay there, because nothing but the ledger changes
  refine wp_mono (wp_forEach (fun t => t.saving = s.saving) ?_ rfl) (fun _ _ _ => trivial)
    (fun _ _ h => h) id
  intro loanId hmem t hsaving
  rw [wp_chargeInterest_zero (by rw [hsaving]; exact hfound loanId hmem)]
  exact ⟨fun _ => trivial, fun _ => hsaving⟩

/-- **The distribution of interest**, at the time of the last distribution, completes exactly if
the charges do and the deposit is not zero when it is cut to 32 bits. -/
theorem completes_distributeInterest (assetId : AssetId) (accountId : AccountId) (now : Moment)
    (totalDeposit rate : Balance) (hsums : β.sums = false) (hproducts : β.products = true)
    (hnow : now = s.saving.bonusTime) :
    (distributeInterest assetId accountId now s.saving.totalLoan totalDeposit rate :
      Prog β AccountId Unit).Completes s ↔
    (forEach s.saving.loans.keys (chargeInterest assetId accountId 0 s.saving.totalLoan) :
      Prog β AccountId Unit).Completes s ∧ totalDeposit.toNat % 2 ^ 32 ≠ 0 := by
  have hdiv : ∀ x : Balance, (0 : Balance) / x = 0 := fun x => BitVec.zero_udiv
  have hzero : ofU32 ((0 : Moment).setWidth 32) = 0 := by decide
  have hsmall : (0 : Moment).toNat < 2 ^ 32 := by decide
  have hnone : ∀ x : Balance, (0 : Balance).toNat * x.toNat < 2 ^ 128 := fun x => by simp
  have hday : ofU32 secPerDay ≠ 0 := by decide
  have hyear : ofU32 daysPerYear ≠ 0 := by decide
  have hpow : (10 : BitVec 32).toNat ^ 8 < 2 ^ 32 := by decide
  have hcut : ofU32 (totalDeposit.setWidth 32) ≠ 0 ↔ totalDeposit.toNat % 2 ^ 32 ≠ 0 := by
    rw [ne_zero_iff, ofU32, BitVec.toNat_setWidth_of_le (by decide), BitVec.toNat_setWidth]
  rw [← wp_const_iff (charges_spec fun _ h => StorageMap.containsKey_iff_mem.mpr h)]
  simp only [Completes, distributeInterest, hnow, wp_bind, wp_gets, wp_sub, wp_unwrap_tryInto,
    wp_mul, wp_div, wp_pow, wp_modify, sub_self, hzero, zero_mul, hdiv, hsmall, hnone, hday, hyear,
    hpow, hsums, hproducts, Bool.false_eq_true, false_imp_iff, not_true_eq_false, true_imp_iff,
    true_and, and_true, imp_true_iff, ne_eq, not_false_eq_true, imp_false, not_not, hcut]

end Distribution

/-! ### The accrual -/

omit [Inhabited AccountId] in
theorem toNat_totalDeposit : (s.cash + s.saving.totalLoan).toNat = s.totalDeposit :=
  BitVec.toNat_add _ _

omit [Inhabited AccountId] in
theorem toNat_pool : (s.cash + s.saving.totalLoan + s.saving.totalLoan).toNat = s.pool := by
  rw [BitVec.toNat_add, toNat_totalDeposit]
  rfl

/-- What all the charges need, in numbers. -/
theorem completes_charges_iff (assetId : AssetId) (accountId : AccountId)
    (htotal : s.saving.totalLoan.toNat * 10 ^ 8 < 2 ^ 128) :
    (forEach s.saving.loans.keys (chargeInterest assetId accountId 0 s.saving.totalLoan) :
      Prog .productsOnly AccountId Unit).Completes s ↔
    ∀ loanId loan, s.saving.loans.get? loanId = some loan → s.ChargeFits loan := by
  rw [completes_charges fun _ h => StorageMap.containsKey_iff_mem.mpr h]
  simp only [chargeFits_iff htotal]
  constructor
  · intro hall loanId loan hget
    have hmem : loanId ∈ s.saving.loans.keys :=
      StorageMap.containsKey_iff_mem.mp (StorageMap.containsKey_iff_exists.mpr ⟨loan, hget⟩)
    have hfits := hall loanId hmem
    rwa [StorageMap.get_of_get? hget] at hfits
  · intro hall loanId hmem
    exact hall loanId _ (StorageMap.get?_of_containsKey (StorageMap.containsKey_iff_mem.mpr hmem))

omit [DecidableEq AccountId] [Inhabited AccountId] in
/-- A charge needs no more than it reads. -/
theorem RuntimeState.ChargeFits.of_eq {s' : RuntimeState AccountId} {loan loan' : Loan AccountId}
    (h : s.ChargeFits loan) (htotal : s'.saving.totalLoan = s.saving.totalLoan)
    (hprice : s'.btcPrice = s.btcPrice)
    (hlimit : s'.saving.globalLTVLimit = s.saving.globalLTVLimit)
    (havailable : loan'.collateralBalanceAvailable = loan.collateralBalanceAvailable) :
    s'.ChargeFits loan' := by
  obtain ⟨hne, hprice', hworth, hcredit⟩ := h
  refine ⟨?_, ?_, ?_, ?_⟩
  · rwa [htotal]
  · rwa [hprice]
  · rwa [hprice, havailable]
  · rwa [hprice, havailable, hlimit]

/-- **The accrual of interest** completes exactly if the pool is empty or its figures fit. -/
theorem completes_calculateLoanInterestRate :
    (calculateLoanInterestRate : Prog .productsOnly AccountId Unit).Completes s ↔
      s.AccrualFits := by
  have hpool : s.assets.free s.saving.collectionAssetId s.saving.collectionAccountId +
      s.saving.totalLoan + s.saving.totalLoan ≠ 0 ↔ s.pool ≠ 0 := by
    rw [ne_zero_iff, ← toNat_pool]
    rfl
  simp only [Completes, calculateLoanInterestRate, wp_bind, wp_gets, wp_add, wp_modify, wp_ite,
    wp_pure, wp_unwrap_checkedMul, wp_div, completes_loanInterestRate, Bool.false_eq_true,
    false_imp_iff, not_true_eq_false, not_false_eq_true, true_imp_iff, true_and, and_true,
    imp_true_iff, hpool, imp_false, not_not]
  rcases eq_or_ne s.pool 0 with hempty | hpos
  · exact iff_of_true (fun hno => absurd hempty hno) (Or.inl hempty)
  -- the distribution runs after its time has been noted
  have hdist := completes_distributeInterest (β := .productsOnly)
    (s := s.withSaving fun t => { t with bonusTime := s.now })
    s.saving.collectionAssetId s.saving.collectionAccountId s.now (s.cash + s.saving.totalLoan)
    ((s.saving.totalLoan * 100000000 / (s.cash + s.saving.totalLoan + s.saving.totalLoan) +
      50000000) / 10) rfl rfl rfl
  rw [toNat_totalDeposit] at hdist
  have hfits := completes_charges_iff (s := s.withSaving fun t => { t with bonusTime := s.now })
    s.saving.collectionAssetId s.saving.collectionAccountId
  have hquotient (htotal : s.saving.totalLoan.toNat * 10 ^ 8 < 2 ^ 128) :
      (s.saving.totalLoan * 100000000 /
        (s.cash + s.saving.totalLoan + s.saving.totalLoan)).toNat < 400000000 ↔
      s.saving.totalLoan.toNat < 4 * s.pool := by
    have hprec : (100000000 : Balance).toNat = 10 ^ 8 := rfl
    rw [BitVec.toNat_udiv, toNat_pool, BitVec.toNat_mul, hprec, Nat.mod_eq_of_lt htotal,
      Nat.div_lt_iff_lt_mul (Nat.pos_of_ne_zero hpos)]
    omega
  constructor
  · intro hall
    obtain ⟨htotal, hrest⟩ := hall hpos
    obtain ⟨hrate, hwp⟩ := (hrest htotal).2 hpos
    obtain ⟨hcharges, hdeposit⟩ := hdist.mp hwp
    refine Or.inr ⟨htotal, (hquotient htotal).mp hrate, hdeposit, fun loanId loan hget => ?_⟩
    exact ((hfits htotal).mp hcharges loanId loan hget).of_eq rfl rfl rfl rfl
  · rintro (hempty | h)
    · exact absurd hempty hpos
    · refine fun _ => ⟨h.total, fun _ => ⟨hpos, fun _ => ?_⟩⟩
      refine ⟨(hquotient h.total).mpr h.utilization, ?_⟩
      refine hdist.mpr ⟨(hfits h.total).mpr fun loanId loan hget => ?_, h.deposit⟩
      exact (h.charges loanId loan hget).of_eq rfl rfl rfl rfl

/-! ### Runs -/

omit [Inhabited AccountId] in
/-- The figures fit as they do in a state with the same figures. -/
theorem RuntimeState.AccrualFits.of_eq {s' : RuntimeState AccountId} (h : s.AccrualFits)
    (hcash : s'.cash = s.cash) (htotal : s'.saving.totalLoan = s.saving.totalLoan)
    (hprice : s'.btcPrice = s.btcPrice)
    (hlimit : s'.saving.globalLTVLimit = s.saving.globalLTVLimit)
    (hloans : ∀ loanId loan', s'.saving.loans.get? loanId = some loan' →
      ∃ loan, s.saving.loans.get? loanId = some loan ∧
        loan'.collateralBalanceAvailable = loan.collateralBalanceAvailable) :
    s'.AccrualFits := by
  have hdeposit : s'.totalDeposit = s.totalDeposit := by
    rw [totalDeposit, totalDeposit, hcash, htotal]
  have hpool : s'.pool = s.pool := by
    rw [pool, pool, hdeposit, htotal]
  rcases h with hempty | ⟨hloan, hrate, hcut, hcharges⟩
  · exact Or.inl (hpool.trans hempty)
  · refine Or.inr ⟨?_, ?_, ?_, fun loanId loan' hget' => ?_⟩
    · rwa [htotal]
    · rwa [htotal, hpool]
    · rwa [hdeposit]
    · obtain ⟨loan, hget, havailable⟩ := hloans loanId loan' hget'
      exact (hcharges loanId loan hget).of_eq htotal hprice hlimit havailable

omit [DecidableEq AccountId] in
/-- A loan whose status is rewritten has the figures it had. -/
theorem figures_of_rewrite {m : StorageMap LoanId (Loan AccountId)} {loanId : LoanId}
    {status : LoanHealth} (hfound : m.containsKey loanId = true) :
    ∀ k loan', (m.insert loanId { m.get loanId with status := status }).get? k = some loan' →
      ∃ loan, m.get? k = some loan ∧
        loan'.collateralBalanceAvailable = loan.collateralBalanceAvailable := by
  intro k loan' hget
  rw [StorageMap.get?_insert] at hget
  split at hget
  · rename_i hk
    cases hget
    subst hk
    exact ⟨m.get k, StorageMap.get?_of_containsKey hfound, rfl⟩
  · exact ⟨loan', hget, rfl⟩

/-- A step of a hook leaves the figures alone. -/
theorem RuntimeState.HookStep.accrualFits {s' : RuntimeState AccountId} (h : s.HookStep s')
    (hkeys : s.saving.KeysAreIds) (hfits : s.AccrualFits) : s'.AccrualFits := by
  cases h with
  | warned loanId ltv hfound =>
    refine hfits.of_eq rfl rfl rfl rfl fun k loan' hget => ?_
    rw [hkeys.warned_loans hfound ltv] at hget
    exact figures_of_rewrite hfound k loan' hget
  | liquidating loanId ltv hfound =>
    exact hfits.of_eq rfl rfl rfl rfl (figures_of_rewrite hfound)
  | charged assetId fromAccount toAccount =>
    refine hfits.of_eq ?_ rfl ?_ rfl fun _ loan hget => ⟨loan, hget, rfl⟩
    · exact GenericAsset.Store.free_moved_zero
    · simp only [RuntimeState.btcPrice, GenericAsset.Store.moved_symbols]
  | accrued => exact hfits.of_eq rfl rfl rfl rfl fun _ loan hget => ⟨loan, hget, rfl⟩

/-- A sequence of steps of a hook leaves the figures alone. -/
theorem accrualFits_of_hookSteps {s' : RuntimeState AccountId}
    (h : Relation.ReflTransGen RuntimeState.HookStep s s') (hkeys : s.saving.KeysAreIds)
    (hfits : s.AccrualFits) : s'.AccrualFits := by
  suffices hboth : s'.saving.KeysAreIds ∧ s'.AccrualFits from hboth.2
  induction h with
  | refl => exact ⟨hkeys, hfits⟩
  | tail _ hstep ih => exact ⟨hstep.keysAreIds ih.1, hstep.accrualFits ih.1 ih.2⟩

/-- **When a step keeps the figures**: a call and an aggregation of prices lead to figures that
fit; the hook at the start of a block and the timestamp may do what they do. -/
def RuntimeState.KeepsFigures (s : RuntimeState AccountId) (i : Step AccountId) : Prop :=
  match i with
  | .onInitialize _ => True
  | .timestamp _ => True
  | i => ∀ s', next i s = some s' → s'.AccrualFits

/-- **The accrual of interest gets through** exactly where the pool is empty or its figures fit;
and so it does, also behind the scan, in every state that is reached from a genesis whose figures
fit by steps that keep the figures. -/
theorem accrual_completes :
    (∀ s : RuntimeState AccountId,
      (calculateLoanInterestRate : Prog .productsOnly AccountId Unit).Completes s ↔
        s.AccrualFits) ∧
    ∀ (config : GenesisConfig AccountId) (s₀ s : RuntimeState AccountId),
      config.build = some s₀ → s₀.AccrualFits → Reach next (fun s i => s.KeepsFigures i) s₀ s →
      (calculateLoanInterestRate : Prog .productsOnly AccountId Unit).Completes s ∧
        ∀ height t, (onEachBlock height : Prog .productsOnly AccountId Unit) s = .ok () t →
          (calculateLoanInterestRate : Prog .productsOnly AccountId Unit).Completes t := by
  refine ⟨fun s => completes_calculateLoanInterestRate, ?_⟩
  intro config s₀ s hgenesis hstart hreach
  have hkeys := keysAreIds_of_reach hgenesis hreach
  have hfits : s.AccrualFits := by
    refine invariant_of_reach (I := fun s => s.AccrualFits) hgenesis hreach hstart ?_
    intro s i ok s' heff hnext hkeys hi hfits
    -- a hook scans the loans and charges them; any other step is asked to keep the figures
    cases i with
    | onInitialize height =>
      cases heff with
      | unchanged => exact hfits
      | staked _ _ _ hi => cases hi
      | redeemed _ _ _ hi => cases hi
      | hook _ hsteps => exact accrualFits_of_hookSteps hsteps hkeys hfits
    | timestamp now =>
      cases heff with
      | unchanged => exact hfits
      | staked _ _ _ hi => cases hi
      | redeemed _ _ _ hi => cases hi
      | timed => exact hfits.of_eq rfl rfl rfl rfl fun _ loan hget => ⟨loan, hget, rfl⟩
    | extrinsic origin call => exact hi s' hnext
    | onFinalize height => exact hi s' hnext
  refine ⟨completes_calculateLoanInterestRate.mpr hfits, fun height t hscan => ?_⟩
  have hsteps := (wp_of_ok hscan).mp onEachBlock_spec
  exact completes_calculateLoanInterestRate.mpr (accrualFits_of_hookSteps hsteps hkeys hfits)

theorem accrual_completes_example : ∃ s,
    next (signedCall 5 (.applyLoan 3 100)) exampleState = some s ∧
      s.saving.loans.containsKey 0 = true ∧
      (calculateLoanInterestRate : Prog .productsOnly ℕ Unit).Completes s := by
  obtain ⟨s, hnext, hkeys, ⟨htotal, hrate, hcut⟩, hcharge⟩ := exists_of_any
    (p := fun s => s.saving.loans.keys = [0] ∧ (s.saving.totalLoan.toNat * 10 ^ 8 < 2 ^ 128 ∧
      s.saving.totalLoan.toNat < 4 * s.pool ∧ s.totalDeposit % 2 ^ 32 ≠ 0) ∧
      s.saving.totalLoan.toNat ≠ 0 ∧ s.btcPrice.toNat % 2 ^ 32 ≠ 0 ∧
      (s.saving.loans.get 0).collateralBalanceAvailable.toNat * (s.btcPrice.toNat % 2 ^ 32) <
        2 ^ 128 ∧
      (s.saving.loans.get 0).collateralBalanceAvailable.toNat * (s.btcPrice.toNat % 2 ^ 32) *
        (s.saving.globalLTVLimit.toNat % 2 ^ 32) < 2 ^ 128)
    (o := next (signedCall 5 (.applyLoan 3 100)) exampleState) (by decide +kernel)
  have hkey : s.saving.loans.containsKey 0 = true := by
    rw [StorageMap.containsKey_iff_mem, hkeys]
    exact List.mem_singleton_self 0
  have hfits : s.AccrualFits := by
    refine Or.inr ⟨htotal, hrate, hcut, fun loanId loan hget => ?_⟩
    have hmem : loanId ∈ s.saving.loans.keys :=
      StorageMap.containsKey_iff_mem.mp (StorageMap.containsKey_iff_exists.mpr ⟨loan, hget⟩)
    rw [hkeys, List.mem_singleton] at hmem
    subst hmem
    rw [← StorageMap.get_of_get? hget]
    exact ⟨hcharge.1, hcharge.2.1, hcharge.2.2.1, hcharge.2.2.2⟩
  have hstart : exampleState.AccrualFits := by
    refine Or.inr ⟨by decide +kernel, by decide +kernel, by decide +kernel, ?_⟩
    rw [exampleConfig.saving_of_build exampleConfig_build]
    exact fun _ _ hget => nomatch hget
  have hkeeps : exampleState.KeepsFigures (signedCall 5 (.applyLoan 3 100)) := by
    intro s' hnext'
    cases hnext.symm.trans hnext'
    exact hfits
  exact ⟨s, hnext, hkey, (accrual_completes.2 exampleConfig exampleState s exampleConfig_build
    hstart (Reach.refl.tail hkeeps hnext)).1⟩

/-- A deposit that is a multiple of `2 ^ 32` is enough: it is divided by what is left of it after
it has been cut to 32 bits. -/
theorem accrual_panics : ¬∀ s, Reachable next testnetState s →
    (calculateLoanInterestRate : Prog .productsOnly ℕ Unit).Completes s := by
  intro h
  obtain ⟨s, hrun, hpanic⟩ := exists_of_any
    (p := fun s =>
      ((calculateLoanInterestRate : Prog .productsOnly ℕ Unit) s).okState.isNone = true)
    (o := run next [.extrinsic (.signed 9) (.genericAsset (.mint 0 5 (2 ^ 32))),
      signedCall 5 (.staking 0 (2 ^ 32))] testnetState) (by decide +kernel)
  have hspec := calculateLoanInterestRate_spec (β := .productsOnly) (I := fun _ => True) (s := s)
    (fun _ _ _ _ _ => trivial) (fun _ _ _ _ _ => trivial) trivial
  obtain ⟨_, s', hx, -⟩ := exists_ok_of_wp (wp_mono (wp_and (h s (reachable_of_run hrun)) hspec)
    (fun _ _ h => h.2) (fun _ _ h => h.2) And.left)
  rw [hx] at hpanic
  cases hpanic

end MoneyPool
