import MoneyPool.Scan

/-!
# The first scan of a new loan

A loan is granted if its amount is below the limit, measured against all of the collateral. The
first scan measures the same amount against the collateral that is left after the worth of the
loan has been locked. So the limit decides nothing about the scan, unless the borrower has left
the amount to the code, which locks nothing then (`MoneyPool.liquidated_at_once_iff`).
-/

namespace MoneyPool

open Pallet Pallet.Exec DepositLoan RuntimeState

variable {AccountId : Type} [DecidableEq AccountId] [Inhabited AccountId]
  {s s' s'' : RuntimeState AccountId} {who : AccountId} {collateralAmount loanAmount : Balance}

/-! ### The figures of a new loan -/

omit [DecidableEq AccountId] [Inhabited AccountId] in
theorem RuntimeState.toNat_price : s.price.toNat = s.btcPrice.toNat := toNat_ofU64 _

omit [DecidableEq AccountId] [Inhabited AccountId] in
theorem RuntimeState.toNat_limit : s.limit.toNat = s.saving.globalLTVLimit.toNat := toNat_ofU64 _

/-- Two products that fit are one product that fits. -/
theorem toNat_scaled {x : Balance} (h1 : x.toNat * (ofU32 ltvPrec).toNat < 2 ^ 128)
    (h2 : (x * ofU32 ltvPrec).toNat * (ofU32 pricePrec).toNat < 2 ^ 128) :
    (x * ofU32 ltvPrec * ofU32 pricePrec).toNat = x.toNat * 10 ^ 8 ∧
      x.toNat * 10 ^ 8 < 2 ^ 128 := by
  have hprec : (ofU32 ltvPrec).toNat * (ofU32 pricePrec).toNat = 10 ^ 8 := by decide
  have hfits := (mul_mul_fits_iff (by decide)).mp ⟨h1, h2⟩
  rw [hprec] at hfits
  exact ⟨(toNat_mul_mul h1 h2).trans (congrArg _ hprec), hfits⟩

omit [Inhabited AccountId] in
/-- **The terms of a loan are exact**: neither its amount with eight decimal places nor the worth
of its collateral comes round. -/
theorem RuntimeState.CanApply.exact (h : s.CanApply .debug who collateralAmount loanAmount) :
    (s.terms collateralAmount loanAmount).loanAmount.toNat * 10 ^ 8 < 2 ^ 128 ∧
      (s.terms collateralAmount loanAmount).collateralAmount.toNat * s.btcPrice.toNat <
        2 ^ 128 := by
  have hgrant := h.granted
  rcases eq_or_ne collateralAmount 0 with hc | hc
  · obtain ⟨hne, hfits⟩ := hgrant.byLoan hc
    obtain ⟨h1, h2, h3⟩ := hfits rfl
    obtain ⟨hamount, hlt⟩ := toNat_scaled h1 h2
    have hlimit : 0 < s.limit.toNat := by
      refine BitVec.toNat_pos_of_ne_zero fun hzero => hne ?_
      rw [hzero]
      exact BitVec.mul_zero
    rw [terms, if_pos hc, BitVec.toNat_udiv, hamount, BitVec.toNat_mul_of_lt h3, ← toNat_price]
    refine ⟨hlt, lt_of_le_of_lt ?_ hlt⟩
    calc loanAmount.toNat * 10 ^ 8 / (s.price.toNat * s.limit.toNat) * s.price.toNat
        ≤ loanAmount.toNat * 10 ^ 8 / (s.price.toNat * s.limit.toNat) *
          (s.price.toNat * s.limit.toNat) :=
          Nat.mul_le_mul_left _ (Nat.le_mul_of_pos_right _ hlimit)
      _ ≤ loanAmount.toNat * 10 ^ 8 := Nat.div_mul_le_self _ _
  · rcases eq_or_ne loanAmount 0 with hl | hl
    · obtain ⟨h1, h2⟩ := hgrant.byCollateral hc hl rfl
      have hprec : (ofU32 ltvPrec * ofU32 pricePrec).toNat = 10 ^ 8 := by decide
      rw [BitVec.toNat_mul_of_lt h1] at h2
      rw [terms, if_neg hc, if_pos hl, BitVec.toNat_udiv, hprec, BitVec.toNat_mul,
        BitVec.toNat_mul_of_lt h1, Nat.mod_eq_of_lt h2, ← toNat_price]
      exact ⟨lt_of_le_of_lt (Nat.div_mul_le_self _ _) h2, h1⟩
    · obtain ⟨-, -, hfits⟩ := hgrant.both hc hl
      obtain ⟨h1, h2, h3⟩ := hfits rfl
      rw [terms, if_neg hc, if_neg hl, ← toNat_price]
      exact ⟨(toNat_scaled h1 h2).2, h3⟩

/-- **The LTV that the first scan sees.** -/
def RuntimeState.firstLtv (s : RuntimeState AccountId)
    (collateralAmount loanAmount : Balance) : ℕ :=
  (s.terms collateralAmount loanAmount).loanAmount.toNat * 10 ^ 8 /
    (((s.terms collateralAmount loanAmount).collateralAmount.toNat -
      loanAmount.toNat / s.btcPrice.toNat) * s.btcPrice.toNat)

omit [Inhabited AccountId] in
/-- The code computes it exactly. -/
theorem RuntimeState.CanApply.ltvQuotient (h : s.CanApply .debug who collateralAmount loanAmount) :
    ((s.newLoan who collateralAmount loanAmount).ltvQuotient s.btcPrice).toNat =
      s.firstLtv collateralAmount loanAmount := by
  obtain ⟨hamount, hworth⟩ := h.exact
  have hlocked := h.available rfl
  have hleft : ((s.terms collateralAmount loanAmount).collateralAmount -
      loanAmount / s.price).toNat = (s.terms collateralAmount loanAmount).collateralAmount.toNat -
        loanAmount.toNat / s.btcPrice.toNat := by
    rw [BitVec.toNat_sub_of_le (BitVec.le_def.mpr hlocked), BitVec.toNat_udiv, toNat_price]
  have hless : ((s.terms collateralAmount loanAmount).collateralAmount.toNat -
      loanAmount.toNat / s.btcPrice.toNat) * s.btcPrice.toNat < 2 ^ 128 :=
    lt_of_le_of_lt (Nat.mul_le_mul_right _ (Nat.sub_le _ _)) hworth
  rw [toNat_ltvQuotient, newLoan, hleft, Nat.mod_eq_of_lt hamount, Nat.mod_eq_of_lt hless, firstLtv]

omit [Inhabited AccountId] in
/-- A loan whose amount was left to the code starts at the limit or below. -/
theorem RuntimeState.CanApply.firstLtv_le (h : s.CanApply .debug who collateralAmount 0) :
    s.firstLtv collateralAmount 0 ≤ s.saving.globalLTVLimit.toNat := by
  have hc : collateralAmount ≠ 0 := fun hzero => h.granted.asked ⟨hzero, rfl⟩
  obtain ⟨h1, h2⟩ := h.granted.byCollateral hc rfl rfl
  have hprec : (ofU32 ltvPrec * ofU32 pricePrec).toNat = 10 ^ 8 := by decide
  rw [BitVec.toNat_mul_of_lt h1] at h2
  rw [firstLtv, terms, if_neg hc, if_pos rfl, BitVec.toNat_udiv, hprec, BitVec.toNat_mul,
    BitVec.toNat_mul_of_lt h1, Nat.mod_eq_of_lt h2, toNat_price, toNat_limit]
  refine Nat.div_le_of_le_mul ?_
  have hzero : (0 : Balance).toNat / s.btcPrice.toNat = 0 := Nat.zero_div _
  rw [hzero, Nat.sub_zero]
  exact Nat.div_mul_le_self _ _

/-! ### The first scan -/

omit [Inhabited AccountId] in
/-- **Applying** succeeds with the loan. -/
theorem applyLoan_spec {β : Build} {origin : Origin AccountId} :
    wp (applyLoan origin collateralAmount loanAmount : Prog β AccountId Unit)
      (fun _ s' => ∃ who, origin = .signed who ∧ s.CanApply β who collateralAmount loanAmount ∧
        s' = s.withLoan who collateralAmount loanAmount) (fun _ _ => True) True s := by
  simp only [applyLoan, wp_bind, wp_gets, wp_ensure, wp_ensureSigned]
  refine ⟨fun _ => ⟨fun who hsigned => ?_, fun _ => trivial⟩, fun _ => trivial⟩
  exact wp_mono applyForLoan_spec (fun _ _ h => ⟨who, hsigned, h⟩) (fun _ _ _ => trivial) id

/-- An application that succeeds where everything is checked. -/
theorem granted_of_ok (h : (Step.exec (.extrinsic (.signed who)
      (.depositLoan (.applyLoan collateralAmount loanAmount))) : Prog .debug AccountId Unit) s =
        .ok () s') :
    s.CanApply .debug who collateralAmount loanAmount ∧
      s' = s.withLoan who collateralAmount loanAmount := by
  obtain ⟨_, ⟨⟩, happly⟩ := (wp_of_ok h).mp (applyLoan_spec)
  exact happly

/-- **No instant liquidation**, exactly. A loan is granted, without an overflow, where the limit
is below the threshold, and the next block scans at the same price. The scan does not put the
loan into liquidation exactly if the borrower has left the amount to the code, if the amount is
below the threshold against what is left of the collateral, or if the id of the loan has been in
liquidation before. -/
theorem liquidated_at_once_iff {config : GenesisConfig AccountId} {s₀ : RuntimeState AccountId}
    {height : BlockNumber} (hgenesis : config.build = some s₀) (hreach : Reachable next s₀ s)
    (hlimit : s.saving.globalLTVLimit < s.saving.globalLiquidationThreshold)
    (happly : (Step.exec (.extrinsic (.signed who)
      (.depositLoan (.applyLoan collateralAmount loanAmount))) : Prog .debug AccountId Unit) s =
        .ok () s')
    (hscan : (onEachBlock height : Prog .release AccountId Unit) s' = .ok () s'') :
    ¬(s.saving.nextLoanId ∉ s'.saving.inLiquidation ∧
      s.saving.nextLoanId ∈ s''.saving.inLiquidation) ↔
      loanAmount = 0 ∨ s.firstLtv collateralAmount loanAmount <
        s.saving.globalLiquidationThreshold.toNat ∨
      s.saving.nextLoanId ∈ s.saving.inLiquidation := by
  obtain ⟨hcan, rfl⟩ := granted_of_ok happly
  have hsame : (s.withLoan who collateralAmount loanAmount).saving.inLiquidation =
    s.saving.inLiquidation := rfl
  rw [hsame]
  by_cases hold : s.saving.nextLoanId ∈ s.saving.inLiquidation
  · exact iff_of_true (fun h => h.1 hold) (Or.inr (Or.inr hold))
  have hkeys : (s.withLoan who collateralAmount loanAmount).saving.KeysAreIds :=
    (keysAreIds_of_reach hgenesis hreach).insert rfl rfl
  have hget := get?_withLoan (s := s) who collateralAmount loanAmount
  have hprice := btcPrice_withLoan (s := s) who collateralAmount loanAmount
  -- the scan gets past the loan, so its LTV is not cut off
  have hpass := (completes_onEachBlock hkeys).mp ((wp_of_ok hscan).mpr trivial) _
    (StorageMap.containsKey_iff_exists.mpr ⟨_, hget⟩)
  have hfits := (hasLtv_iff.mpr (hpass.resolve_left hold)).fits
  rw [StorageMap.get_of_get? hget, hprice, hcan.ltvQuotient] at hfits
  have hput := (wp_of_ok hscan).mp (onEachBlock_liquidates hkeys hget hold)
  rw [hprice, BitVec.le_def, BitVec.toNat_setWidth, hcan.ltvQuotient,
    Nat.mod_eq_of_lt hfits] at hput
  rw [and_iff_right hold, hput, not_le]
  constructor
  · intro hlt
    exact Or.inr (Or.inl hlt)
  · rintro (rfl | hlt | hmem)
    · exact lt_of_le_of_lt hcan.firstLtv_le hlimit
    · exact hlt
    · exact (hold hmem).elim

theorem liquidated_at_once_example : ∃ s' s'',
    (Step.exec (signedCall 5 (.applyLoan 3 100)) : Prog .debug ℕ Unit) exampleState = .ok () s' ∧
    (onEachBlock 1 : Prog .release ℕ Unit) s' = .ok () s'' ∧
    ¬(0 ∉ s'.saving.inLiquidation ∧ 0 ∈ s''.saving.inLiquidation) := by
  obtain ⟨s', hs', hsome⟩ := exists_of_any
    (p := fun s => ((onEachBlock 1 : Prog .release ℕ Unit) s).okState.isSome = true)
    (o := ((Step.exec (signedCall 5 (.applyLoan 3 100)) : Prog .debug ℕ Unit)
      exampleState).okState) (by decide +kernel)
  obtain ⟨s'', hs''⟩ := Option.isSome_iff_exists.mp hsome
  have happly := Outcome.eq_ok_of_okState hs'
  have hscan := Outcome.eq_ok_of_okState hs''
  have hnot := (liquidated_at_once_iff exampleConfig_build .refl (by decide +kernel) happly
    hscan).mpr (Or.inr (Or.inl (by decide +kernel)))
  have hid : exampleState.saving.nextLoanId = 0 := by decide +kernel
  rw [hid] at hnot
  exact ⟨s', s'', happly, hscan, hnot⟩

/-- Half of the collateral is locked, and the first scan finds the other half too little. -/
theorem liquidated_at_once : ¬∀ (s s' s'' : RuntimeState ℕ) who collateralAmount loanAmount height,
    Reachable next exampleState s →
    s.saving.globalLTVLimit < s.saving.globalLiquidationThreshold → 0 < s.btcPrice →
    (Step.exec (signedCall who (.applyLoan collateralAmount loanAmount)) : Prog .debug ℕ Unit) s =
      .ok () s' →
    (onEachBlock height : Prog .release ℕ Unit) s' = .ok () s'' →
    ¬(s.saving.nextLoanId ∉ s'.saving.inLiquidation ∧
      s.saving.nextLoanId ∈ s''.saving.inLiquidation) := by
  intro h
  obtain ⟨s', hs', hcalm, hany⟩ := exists_of_any
    (p := fun s => 0 ∉ s.saving.inLiquidation ∧
      (((onEachBlock 1 : Prog .release ℕ Unit) s).okState.any fun t =>
        decide (0 ∈ t.saving.inLiquidation)) = true)
    (o := ((Step.exec (signedCall 5 (.applyLoan 2 100)) : Prog .debug ℕ Unit)
      exampleState).okState) (by decide +kernel)
  obtain ⟨s'', hs'', hput⟩ := exists_of_any hany
  have hid : exampleState.saving.nextLoanId = 0 := by decide +kernel
  refine h exampleState s' s'' 5 2 100 1 .refl (by decide +kernel) (by decide +kernel)
    (Outcome.eq_ok_of_okState hs') (Outcome.eq_ok_of_okState hs'') ?_
  rw [hid]
  exact ⟨hcalm, hput⟩

end MoneyPool
