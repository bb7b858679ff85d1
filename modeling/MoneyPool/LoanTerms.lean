import MoneyPool.FirstScan

/-!
# The terms of a new loan

An application names a collateral, an amount or both; a zero is worked out at the limit. What has
been worked out is recorded, what was asked for is paid out: `MoneyPool.changes_hands_iff` says
that the two agree unless the amount was left to the code.

`MoneyPool.terms_within_limit_iff` says when the terms respect the limit. An amount that is worked
out is rounded down, which is safe; a collateral that is worked out is rounded down as well, which
is not.
-/

namespace MoneyPool

open Pallet Pallet.Exec DepositLoan RuntimeState GenericAsset

variable {AccountId : Type} [DecidableEq AccountId] {β : Build}
  {s s' : RuntimeState AccountId} {who : AccountId} {collateralAmount loanAmount : Balance}

/-! ### The terms in numbers -/

namespace RuntimeState

variable (s)

/-- The collateral of an application: the one it names, or the one that is worked out. -/
def collateralOf (collateralAmount loanAmount : Balance) : ℕ :=
  if collateralAmount = 0 then
    loanAmount.toNat * 10 ^ 8 % 2 ^ 128 /
      (s.btcPrice.toNat * s.saving.globalLTVLimit.toNat % 2 ^ 128)
  else collateralAmount.toNat

/-- What the limit allows to be borrowed for a collateral. -/
def allowance (collateralAmount : Balance) : ℕ :=
  collateralAmount.toNat * s.btcPrice.toNat * s.saving.globalLTVLimit.toNat % 2 ^ 128 / 10 ^ 8

/-- The amount of an application: the one it asks for, or the one that is worked out. -/
def amountOf (collateralAmount loanAmount : Balance) : ℕ :=
  if loanAmount = 0 then s.allowance collateralAmount else loanAmount.toNat

omit [DecidableEq AccountId] in
theorem toNat_collateral_terms (collateralAmount loanAmount : Balance) :
    (s.terms collateralAmount loanAmount).collateralAmount.toNat =
      s.collateralOf collateralAmount loanAmount := by
  have hprec : (ofU32 ltvPrec * ofU32 pricePrec).toNat = 10 ^ 8 := by decide
  rcases eq_or_ne collateralAmount 0 with hc | hc
  · rw [terms, collateralOf, if_pos hc, if_pos hc, BitVec.toNat_udiv, BitVec.mul_assoc,
      BitVec.toNat_mul, hprec, BitVec.toNat_mul, toNat_price, toNat_limit]
  · rw [terms, collateralOf, if_neg hc, if_neg hc]
    split <;> rfl

omit [DecidableEq AccountId] in
theorem toNat_allowance : (collateralAmount * s.price * s.limit /
    (ofU32 ltvPrec * ofU32 pricePrec)).toNat = s.allowance collateralAmount := by
  have hprec : (ofU32 ltvPrec * ofU32 pricePrec).toNat = 10 ^ 8 := by decide
  rw [allowance, BitVec.toNat_udiv, hprec, BitVec.toNat_mul, BitVec.toNat_mul, Nat.mod_mul_mod,
    toNat_price, toNat_limit]

omit [DecidableEq AccountId] in
theorem toNat_loan_terms (hask : ¬(collateralAmount = 0 ∧ loanAmount = 0)) :
    (s.terms collateralAmount loanAmount).loanAmount.toNat =
      s.amountOf collateralAmount loanAmount := by
  rcases eq_or_ne loanAmount 0 with rfl | hl
  · rw [loanAmount_terms_zero fun hc => hask ⟨hc, rfl⟩, toNat_allowance, amountOf, if_pos rfl]
  · rw [loanAmount_terms_of_ne hl, amountOf, if_neg hl]

end RuntimeState

/-! ### What changes hands -/

namespace RuntimeState

variable (s)

/-- **What is recorded has changed hands**: the borrower has received the balance of the loan from
the collection account, and the pawn shop the collateral from the borrower. -/
structure ChangesHands (who : AccountId) (loan : Loan AccountId) (s' : RuntimeState AccountId) :
    Prop where
  received : (s'.assets.free s.saving.collectionAssetId who).toNat =
    (s.assets.free s.saving.collectionAssetId who).toNat + loan.loanBalanceTotal.toNat
  lent : (s'.assets.free s.saving.collectionAssetId s.saving.collectionAccountId).toNat +
    loan.loanBalanceTotal.toNat =
      (s.assets.free s.saving.collectionAssetId s.saving.collectionAccountId).toNat
  given : (s'.assets.free s.saving.collateralAssetId who).toNat +
    loan.collateralBalanceOriginal.toNat = (s.assets.free s.saving.collateralAssetId who).toNat
  pawned : (s'.assets.free s.saving.collateralAssetId s.saving.pawnShop).toNat =
    (s.assets.free s.saving.collateralAssetId s.saving.pawnShop).toNat +
      loan.collateralBalanceOriginal.toNat

/-- **When what is recorded changes hands**: the amount is asked for, or the limit allows nothing,
and the two accounts that receive something have room for it. -/
structure PaysAsRecorded (who : AccountId) (collateralAmount loanAmount : Balance) : Prop where
  amount : loanAmount = 0 → s.allowance collateralAmount = 0
  borrower : (s.assets.free s.saving.collectionAssetId who).toNat + loanAmount.toNat < 2 ^ 128
  shop : (s.assets.free s.saving.collateralAssetId s.saving.pawnShop).toNat +
    s.collateralOf collateralAmount loanAmount < 2 ^ 128

end RuntimeState

/-- **What is recorded changes hands** if what is recorded was asked for, and there is room. -/
theorem changesHands_withLoan (hwho : who ≠ s.saving.collectionAccountId)
    (hshop : who ≠ s.saving.pawnShop)
    (hassets : s.saving.collateralAssetId ≠ s.saving.collectionAssetId)
    (h : s.CanApply β who collateralAmount loanAmount) :
    s.ChangesHands who (s.newLoan who collateralAmount loanAmount)
        (s.withLoan who collateralAmount loanAmount) ↔
      s.PaysAsRecorded who collateralAmount loanAmount := by
  have hcash := BitVec.le_def.mp h.funded
  have hlent := BitVec.toNat_sub_of_le h.funded
  have hgiven := BitVec.toNat_sub_of_le h.covered
  have hcovered := BitVec.le_def.mp h.covered
  -- both transfers are covered, but what arrives may come round
  have hborrower := toNat_add_cases (s.assets.free s.saving.collectionAssetId who) loanAmount
  have hpawned := toNat_add_cases (s.assets.free s.saving.collateralAssetId s.saving.pawnShop)
    (s.terms collateralAmount loanAmount).collateralAmount
  have hlt := (s.assets.free s.saving.collectionAssetId who + loanAmount).isLt
  have hlt' := (s.assets.free s.saving.collateralAssetId s.saving.pawnShop +
    (s.terms collateralAmount loanAmount).collateralAmount).isLt
  have hC := toNat_collateral_terms s collateralAmount loanAmount
  have hsame : (s.terms collateralAmount loanAmount).loanAmount.toNat = loanAmount.toNat ↔
      (loanAmount = 0 → s.allowance collateralAmount = 0) := by
    rw [BitVec.toNat_inj, loanAmount_terms_iff h.granted.asked, ← toNat_allowance]
    exact imp_congr_right fun _ => BitVec.toNat_inj.symm
  have htotal : (s.newLoan who collateralAmount loanAmount).loanBalanceTotal =
      (s.terms collateralAmount loanAmount).loanAmount := rfl
  have horiginal : (s.newLoan who collateralAmount loanAmount).collateralBalanceOriginal =
      (s.terms collateralAmount loanAmount).collateralAmount := rfl
  simp only [cash] at hcash hlent
  constructor
  · intro hhands
    obtain ⟨hr, hl, -, hp⟩ := hhands
    rw [free_withLoan_borrower hwho hassets, htotal] at hr
    rw [free_withLoan_collection hwho hassets, htotal] at hl
    rw [free_withLoan_shop hshop hassets, horiginal] at hp
    exact ⟨hsame.mp (by omega), by omega, by omega⟩
  · intro hpays
    obtain ⟨hamount, hroom, hroom'⟩ := hpays
    have heq := hsame.mpr hamount
    refine ⟨?_, ?_, ?_, ?_⟩
    · rw [free_withLoan_borrower hwho hassets, htotal]
      omega
    · rw [free_withLoan_collection hwho hassets, htotal]
      omega
    · rw [free_withLoan_given hshop hassets, horiginal]
      omega
    · rw [free_withLoan_shop hshop hassets, horiginal]
      omega

/-- **The borrower receives what is recorded as debt** if and only if the amount was asked for or
the limit allows nothing, and there is room for what changes hands. -/
theorem changes_hands_iff [Inhabited AccountId]
    (h : (applyLoan (.signed who) collateralAmount loanAmount : Prog β AccountId Unit) s =
      .ok () s')
    (hwho : who ≠ s.saving.collectionAccountId) (hshop : who ≠ s.saving.pawnShop)
    (hassets : s.saving.collateralAssetId ≠ s.saving.collectionAssetId) :
    s.ChangesHands who (s'.saving.loans.get s.saving.nextLoanId) s' ↔
      s.PaysAsRecorded who collateralAmount loanAmount := by
  obtain ⟨_, ⟨⟩, hcan, rfl⟩ := (wp_of_ok h).mp applyLoan_spec
  rw [StorageMap.get_of_get? (get?_withLoan ..)]
  exact changesHands_withLoan hwho hshop hassets hcan

/-- Account 5 borrows 100 for 3. -/
theorem changes_hands_example : ∃ s',
    (applyLoan (.signed 5) 3 100 : Prog .release ℕ Unit) exampleState = .ok () s' ∧
      exampleState.ChangesHands 5 (s'.saving.loans.get exampleState.saving.nextLoanId) s' := by
  obtain ⟨s', hs', -⟩ := exists_of_any (p := fun _ => True)
    (o := ((applyLoan (.signed 5) 3 100 : Prog .release ℕ Unit) exampleState).okState)
    (by decide +kernel)
  have happly := Outcome.eq_ok_of_okState hs'
  refine ⟨s', happly, (changes_hands_iff happly (by decide +kernel) (by decide +kernel)
    (by decide +kernel)).mpr ⟨?_, ?_, ?_⟩⟩
  · exact fun hno => absurd hno (by decide)
  · decide +kernel
  · decide +kernel

/-- **An amount that is worked out is not paid.** Account 5 gives 3 and leaves the amount to the
code, which records 200. -/
theorem not_changes_hands : ¬∀ s, Reachable next exampleState s →
    ∀ who collateralAmount loanAmount s',
    (applyLoan (.signed who) collateralAmount loanAmount : Prog .release ℕ Unit) s = .ok () s' →
    who ≠ s.saving.collectionAccountId → who ≠ s.saving.pawnShop →
    s.saving.collateralAssetId ≠ s.saving.collectionAssetId →
      s.ChangesHands who (s'.saving.loans.get s.saving.nextLoanId) s' := by
  intro h
  obtain ⟨s', hs', htotal, hfree⟩ := exists_of_any
    (p := fun s' => (s'.saving.loans.get exampleState.saving.nextLoanId).loanBalanceTotal = 200 ∧
      s'.assets.free exampleState.saving.collectionAssetId 5 =
        exampleState.assets.free exampleState.saving.collectionAssetId 5)
    (o := ((applyLoan (.signed 5) 3 0 : Prog .release ℕ Unit) exampleState).okState)
    (by decide +kernel)
  have hhands := (h exampleState .refl 5 3 0 s' (Outcome.eq_ok_of_okState hs') (by decide +kernel)
    (by decide +kernel) (by decide +kernel)).received
  rw [htotal, hfree] at hhands
  have hrecorded : (200 : Balance).toNat = 200 := rfl
  omega

/-! ### The limit -/

/-- **Terms within the limit**: the amount is at most what the limit allows for the collateral. In
particular there is no loan without a collateral. -/
structure RuntimeState.RespectsLimit (s : RuntimeState AccountId) (loan : CollateralLoan) :
    Prop where
  limited : loan.loanAmount.toNat * ltvPrec.toNat * pricePrec.toNat ≤
    s.saving.globalLTVLimit.toNat * loan.collateralAmount.toNat * s.btcPrice.toNat
  secured : 0 < loan.loanAmount.toNat → 0 < loan.collateralAmount.toNat

omit [DecidableEq AccountId] in
/-- The limit alone decides. -/
theorem respectsLimit_iff {loan : CollateralLoan} : s.RespectsLimit loan ↔
    loan.loanAmount.toNat * 10 ^ 8 ≤
      loan.collateralAmount.toNat * (s.btcPrice.toNat * s.saving.globalLTVLimit.toNat) := by
  have hltv : ltvPrec.toNat = 10 ^ 4 := rfl
  have hprice : pricePrec.toNat = 10 ^ 4 := rfl
  have hscale : loan.loanAmount.toNat * ltvPrec.toNat * pricePrec.toNat =
      loan.loanAmount.toNat * 10 ^ 8 := by
    rw [hltv, hprice]
    omega
  have hworth : s.saving.globalLTVLimit.toNat * loan.collateralAmount.toNat * s.btcPrice.toNat =
      loan.collateralAmount.toNat * (s.btcPrice.toNat * s.saving.globalLTVLimit.toNat) := by
    ring
  constructor
  · intro h
    have hlimited := h.limited
    rwa [hscale, hworth] at hlimited
  · intro h
    refine ⟨?_, fun hpos => ?_⟩
    · rwa [hscale, hworth]
    · -- nothing is allowed for no collateral
      by_contra hno
      rw [Nat.eq_zero_of_not_pos hno, Nat.zero_mul] at h
      omega

omit [DecidableEq AccountId] in
/-- A collateral that is worked out is enough if nothing is rounded off. -/
theorem respectsLimit_byLoan (hgrant : s.CanGrant .debug 0 loanAmount) :
    s.RespectsLimit (s.terms 0 loanAmount) ↔
      s.btcPrice.toNat * s.saving.globalLTVLimit.toNat ∣ loanAmount.toNat * 10 ^ 8 := by
  obtain ⟨-, hfits⟩ := hgrant.byLoan rfl
  obtain ⟨h1, h2, h3⟩ := hfits rfl
  rw [toNat_price, toNat_limit] at h3
  have hl : (s.terms 0 loanAmount).loanAmount = loanAmount := by
    rw [terms, if_pos rfl]
  rw [respectsLimit_iff, hl, toNat_collateral_terms, collateralOf, if_pos rfl,
    Nat.mod_eq_of_lt (toNat_scaled h1 h2).2, Nat.mod_eq_of_lt h3]
  constructor
  · intro hle
    exact Dvd.intro_left _ (le_antisymm (Nat.div_mul_le_self _ _) hle)
  · intro hdvd
    exact (Nat.div_mul_cancel hdvd).ge

omit [DecidableEq AccountId] in
/-- An amount that is worked out is within the limit. -/
theorem respectsLimit_byCollateral (hc : collateralAmount ≠ 0)
    (hgrant : s.CanGrant .debug collateralAmount 0) :
    s.RespectsLimit (s.terms collateralAmount 0) := by
  obtain ⟨h1, h2⟩ := hgrant.byCollateral hc rfl rfl
  rw [BitVec.toNat_mul_of_lt h1, toNat_price, toNat_limit] at h2
  rw [respectsLimit_iff, loanAmount_terms_zero hc, toNat_allowance, toNat_collateral_terms,
    collateralOf, if_neg hc, allowance, Nat.mod_eq_of_lt h2, ← Nat.mul_assoc]
  exact Nat.div_mul_le_self _ _

omit [DecidableEq AccountId] in
/-- An amount that is asked for is measured against its collateral. -/
theorem respectsLimit_both (hc : collateralAmount ≠ 0) (hl : loanAmount ≠ 0)
    (hgrant : s.CanGrant .debug collateralAmount loanAmount) :
    s.RespectsLimit (s.terms collateralAmount loanAmount) := by
  obtain ⟨hne, hlt, hfits⟩ := hgrant.both hc hl
  obtain ⟨h1, h2, h3⟩ := hfits rfl
  have hpos : 0 < collateralAmount.toNat * s.btcPrice.toNat := by
    rw [← toNat_price, ← BitVec.toNat_mul_of_lt h3]
    exact BitVec.toNat_pos_of_ne_zero hne
  rw [BitVec.lt_def, BitVec.toNat_udiv, (toNat_scaled h1 h2).1, BitVec.toNat_mul_of_lt h3,
    toNat_price, toNat_limit, Nat.div_lt_iff_lt_mul hpos] at hlt
  rw [respectsLimit_iff, loanAmount_terms_of_ne hl, toNat_collateral_terms, collateralOf,
    if_neg hc]
  calc loanAmount.toNat * 10 ^ 8
      ≤ s.saving.globalLTVLimit.toNat * (collateralAmount.toNat * s.btcPrice.toNat) := hlt.le
    _ = collateralAmount.toNat * (s.btcPrice.toNat * s.saving.globalLTVLimit.toNat) := by ring

omit [DecidableEq AccountId] in
/-- **Terms that are granted without an overflow respect the limit** if and only if a collateral is
named, or nothing is rounded off the one that is worked out. -/
theorem terms_within_limit_iff {loan : CollateralLoan}
    (h : (getCollateralLoan collateralAmount loanAmount : Prog .debug AccountId CollateralLoan) s =
      .ok loan s') :
    s.RespectsLimit loan ↔ collateralAmount ≠ 0 ∨
      s.btcPrice.toNat * s.saving.globalLTVLimit.toNat ∣ loanAmount.toNat * 10 ^ 8 := by
  obtain ⟨hgrant, rfl, -⟩ := (wp_of_ok h).mp getCollateralLoan_spec
  rcases eq_or_ne collateralAmount 0 with rfl | hc
  · rw [respectsLimit_byLoan hgrant]
    exact ⟨Or.inr, fun h => h.resolve_left fun hno => hno rfl⟩
  refine iff_of_true ?_ (Or.inl hc)
  rcases eq_or_ne loanAmount 0 with rfl | hl
  · exact respectsLimit_byCollateral hc hgrant
  · exact respectsLimit_both hc hl hgrant

/-- 100 are granted for 3. -/
theorem terms_within_limit_example : ∃ loan s',
    (getCollateralLoan 3 100 : Prog .debug ℕ CollateralLoan) exampleState = .ok loan s' ∧
      exampleState.RespectsLimit loan := by
  obtain ⟨s', hs', -⟩ := exists_of_any (p := fun _ => True)
    (o := ((getCollateralLoan 3 100 : Prog .debug ℕ CollateralLoan) exampleState).okState)
    (by decide +kernel)
  obtain ⟨loan, h⟩ := Outcome.exists_ok_of_okState hs'
  exact ⟨loan, s', h, (terms_within_limit_iff h).mpr (Or.inl (by decide))⟩

/-- **A collateral that is worked out is too little.** 1 is granted for 0. -/
theorem not_terms_within_limit : ¬∀ s, Reachable next exampleState s → 0 < s.btcPrice →
    0 < s.saving.globalLTVLimit → ∀ collateralAmount loanAmount loan s',
    (getCollateralLoan collateralAmount loanAmount : Prog .debug ℕ CollateralLoan) s =
      .ok loan s' → s.RespectsLimit loan := by
  intro h
  obtain ⟨s', hs', -⟩ := exists_of_any (p := fun _ => True)
    (o := ((getCollateralLoan 0 1 : Prog .debug ℕ CollateralLoan) exampleState).okState)
    (by decide +kernel)
  obtain ⟨loan, hloan⟩ := Outcome.exists_ok_of_okState hs'
  have hrespects := h exampleState .refl (by decide +kernel) (by decide +kernel) 0 1 loan s' hloan
  obtain ⟨-, rfl, -⟩ := (wp_of_ok hloan).mp getCollateralLoan_spec
  have hnothing : (exampleState.terms 0 1).collateralAmount.toNat = 0 := by decide +kernel
  have hsome : 0 < (exampleState.terms 0 1).loanAmount.toNat := by decide +kernel
  exact (hrespects.secured hsome).ne' hnothing

end MoneyPool
