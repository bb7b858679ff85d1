import MoneyPool.Draws
import MoneyPool.Interest

/-!
# The credit of a loan and the price

What may be drawn on a loan is computed with the price cut to 32 bits, where the health of a loan
and the terms of a new one take all of its 64. `MoneyPool.credit_grows_iff` says for which two
prices the higher one covers all that the lower one does: those whose last 32 bits are in order, or
make no difference.
-/

namespace MoneyPool

open Pallet Pallet.Exec DepositLoan RuntimeState

variable {AccountId : Type} {s : RuntimeState AccountId} {price : PriceInUSDT}

/-! ### Another price -/

/-- **The state at another price** of the collateral. -/
def RuntimeState.atPrice (s : RuntimeState AccountId) (price : PriceInUSDT) :
    RuntimeState AccountId :=
  { s with oracle := { s.oracle with
      currentPrice := s.oracle.currentPrice.insert
        (s.assets.symbols.get s.saving.collateralAssetId) price } }

@[simp] theorem btcPrice_atPrice : (s.atPrice price).btcPrice = price := by
  simp only [btcPrice, atPrice, StorageMap.get_insert, if_true]

/-- What the collateral that is left is worth at the limit, at a price cut to 32 bits. -/
def RuntimeState.cutWorth (s : RuntimeState AccountId) (loan : Loan AccountId)
    (price : PriceInUSDT) : ℕ :=
  loan.collateralBalanceAvailable.toNat * (price.toNat % 2 ^ 32) * s.saving.globalLTVLimit.toNat

theorem toNat_drawPrice_atPrice : (s.atPrice price).drawPrice.toNat = price.toNat % 2 ^ 32 := by
  rw [toNat_drawPrice, btcPrice_atPrice]

/-- **The credit in numbers**, where it fits at the whole price. -/
theorem toNat_credit_atPrice {loan : Loan AccountId}
    (hlimit : s.saving.globalLTVLimit.toNat < 2 ^ 32)
    (hfits : loan.collateralBalanceAvailable.toNat * price.toNat * s.saving.globalLTVLimit.toNat <
      2 ^ 128) :
    ((s.atPrice price).credit loan).toNat = s.cutWorth loan price / 10 ^ 8 := by
  have hltv : (ofU32 ltvPrec).toNat = 10 ^ 4 := by decide
  have hprec : (ofU32 pricePrec).toNat = 10 ^ 4 := by decide
  have hcut : (ofU32 (asU32 (s.atPrice price).saving.globalLTVLimit)).toNat =
      s.saving.globalLTVLimit.toNat := by
    rw [ofU32, asU32, BitVec.toNat_setWidth_of_le (by decide), BitVec.toNat_setWidth]
    exact Nat.mod_eq_of_lt hlimit
  have hworth : s.cutWorth loan price < 2 ^ 128 :=
    lt_of_le_of_lt (Nat.mul_le_mul_right _ (Nat.mul_le_mul_left _ (Nat.mod_le ..))) hfits
  rw [credit, BitVec.toNat_udiv, BitVec.toNat_udiv, BitVec.toNat_mul, BitVec.toNat_mul, hltv,
    hprec, hcut, toNat_drawPrice_atPrice, Nat.mod_mul_mod, Nat.div_div_eq_div_mul]
  exact congrArg (· / 10 ^ 8) (Nat.mod_eq_of_lt hworth)

/-! ### Two prices -/

variable [DecidableEq AccountId] [Inhabited AccountId] {who : AccountId} {loanId : LoanId}
  {price₁ price₂ : PriceInUSDT}

/-- **The credit of a loan grows with the price**: what is accepted at one price is accepted at the
other, and nothing panics at either. -/
structure RuntimeState.CreditGrows (s : RuntimeState AccountId) (who : AccountId)
    (loanId : LoanId) (price₁ price₂ : PriceInUSDT) : Prop where
  accepted : ∀ amount s₁,
    (drawFromLoan who loanId amount : Prog .release AccountId Unit) (s.atPrice price₁) = .ok () s₁ →
      ∃ s₂, (drawFromLoan who loanId amount : Prog .release AccountId Unit) (s.atPrice price₂) =
        .ok () s₂
  completes : ∀ amount,
    (drawFromLoan who loanId amount : Prog .release AccountId Unit).Completes (s.atPrice price₁) ∧
      (drawFromLoan who loanId amount : Prog .release AccountId Unit).Completes (s.atPrice price₂)

section OnePrice

variable (hfound : s.saving.loans.containsKey loanId = true)
  (howner : (s.saving.loans.get loanId).who = who)

include hfound howner

/-- What is covered by the credit at a price is drawn at it, unless its last 32 bits are zero. -/
theorem draw_atPrice_iff {amount : Balance} (hprice : price.toNat % 2 ^ 32 ≠ 0) :
    (∃ s', (drawFromLoan who loanId amount : Prog .release AccountId Unit) (s.atPrice price) =
      .ok () s') ↔ amount ≤ (s.atPrice price).credit (s.saving.loans.get loanId) := by
  constructor
  · rintro ⟨s', hrun⟩
    exact ((wp_of_ok hrun).mp drawFromLoan_spec).1.covered
  · intro hle
    have hne : (s.atPrice price).drawPrice ≠ 0 := by
      rw [ne_zero_iff, toNat_drawPrice_atPrice]
      exact hprice
    exact ⟨_, drawFromLoan_ok ⟨hfound, howner, hle, hne⟩ (creditFits_release _)⟩

/-- **Draws complete** at every price but those whose last 32 bits are zero. -/
theorem completes_draw_atPrice_iff :
    (∀ amount, (drawFromLoan who loanId amount : Prog .release AccountId Unit).Completes
      (s.atPrice price)) ↔ price.toNat % 2 ^ 32 ≠ 0 := by
  constructor
  · intro hall hnumber
    have hle : (0 : Balance) ≤ (s.atPrice price).credit (s.saving.loans.get loanId) :=
      BitVec.le_def.mpr (Nat.zero_le _)
    -- drawing nothing passes the checks, and divides by the price
    have hzero : wp (drawFromLoan who loanId 0 : Prog .release AccountId Unit) _ _ _
        (s.atPrice price) := drawFromLoan_exact (creditFits_release _)
    rcases cases_of_wp hzero with ⟨_, _, -, hcan, -⟩ | ⟨_, _, -, hno, -⟩ | ⟨hpanic, -⟩
    · exact ne_zero_iff.mp hcan.price (toNat_drawPrice_atPrice.trans hnumber)
    · exact hno ⟨hfound, howner, hle⟩
    · exact completes_iff_ne_panic.mp (hall 0) hpanic
  · intro hprice amount
    rw [completes_iff_ne_panic]
    intro hpanic
    have hzero := ((wp_of_panic hpanic).mp (drawFromLoan_exact (creditFits_release _))).1
    have hnumber : (s.atPrice price).drawPrice.toNat = 0 := by
      rw [hzero]
      rfl
    exact hprice (toNat_drawPrice_atPrice.symm.trans hnumber)

end OnePrice

/-- **The credit grows with the price** if and only if neither price ends in 32 zero bits and their
last 32 bits are in order, or make no difference after rounding. -/
theorem credit_grows_iff (hfound : s.saving.loans.containsKey loanId = true)
    (howner : (s.saving.loans.get loanId).who = who)
    (hlimit : s.saving.globalLTVLimit.toNat < 2 ^ 32) (hle : price₁ ≤ price₂)
    (hfits : (s.saving.loans.get loanId).collateralBalanceAvailable.toNat * price₂.toNat *
      s.saving.globalLTVLimit.toNat < 2 ^ 128) :
    s.CreditGrows who loanId price₁ price₂ ↔
      price₁.toNat % 2 ^ 32 ≠ 0 ∧ price₂.toNat % 2 ^ 32 ≠ 0 ∧
        (price₁.toNat % 2 ^ 32 ≤ price₂.toNat % 2 ^ 32 ∨
          s.cutWorth (s.saving.loans.get loanId) price₁ / 10 ^ 8 =
            s.cutWorth (s.saving.loans.get loanId) price₂ / 10 ^ 8) := by
  have hfits₁ : (s.saving.loans.get loanId).collateralBalanceAvailable.toNat * price₁.toNat *
      s.saving.globalLTVLimit.toNat < 2 ^ 128 :=
    lt_of_le_of_lt (Nat.mul_le_mul_right _ (Nat.mul_le_mul_left _ (BitVec.le_def.mp hle))) hfits
  have hcredit₁ := toNat_credit_atPrice hlimit hfits₁
  have hcredit₂ := toNat_credit_atPrice hlimit hfits
  have hmono : ∀ p q : PriceInUSDT, p.toNat % 2 ^ 32 ≤ q.toNat % 2 ^ 32 →
      s.cutWorth (s.saving.loans.get loanId) p / 10 ^ 8 ≤
        s.cutWorth (s.saving.loans.get loanId) q / 10 ^ 8 := fun p q h =>
    Nat.div_le_div_right (Nat.mul_le_mul_right _ (Nat.mul_le_mul_left _ h))
  constructor
  · rintro ⟨haccepted, hcompletes⟩
    have hprice₁ := (completes_draw_atPrice_iff hfound howner).mp fun a => (hcompletes a).1
    have hprice₂ := (completes_draw_atPrice_iff hfound howner).mp fun a => (hcompletes a).2
    refine ⟨hprice₁, hprice₂, ?_⟩
    rcases Nat.le_total (price₁.toNat % 2 ^ 32) (price₂.toNat % 2 ^ 32) with h | h
    · exact Or.inl h
    · -- the whole credit at the one price is accepted at the other
      obtain ⟨s₁, hrun⟩ := (draw_atPrice_iff hfound howner hprice₁).mpr (BitVec.le_refl _)
      have hcovered := (draw_atPrice_iff hfound howner hprice₂).mp (haccepted _ s₁ hrun)
      rw [BitVec.le_def, hcredit₁, hcredit₂] at hcovered
      exact Or.inr (Nat.le_antisymm hcovered (hmono _ _ h))
  · rintro ⟨hprice₁, hprice₂, horder⟩
    have hgrows : (s.atPrice price₁).credit (s.saving.loans.get loanId) ≤
        (s.atPrice price₂).credit (s.saving.loans.get loanId) := by
      rw [BitVec.le_def, hcredit₁, hcredit₂]
      rcases horder with h | h
      · exact hmono _ _ h
      · exact h.le
    refine ⟨fun amount s₁ hrun => ?_, fun amount => ⟨?_, ?_⟩⟩
    · have hcovered := (draw_atPrice_iff hfound howner hprice₁).mp ⟨s₁, hrun⟩
      exact (draw_atPrice_iff hfound howner hprice₂).mpr (BitVec.le_trans hcovered hgrows)
    · exact (completes_draw_atPrice_iff hfound howner).mpr hprice₁ amount
    · exact (completes_draw_atPrice_iff hfound howner).mpr hprice₂ amount

/-- The loan of account 5 has more credit at 200 than at 100. -/
theorem credit_grows_example :
    ∃ s, next (signedCall 5 (.applyLoan 1000 100)) exampleState = some s ∧
      s.CreditGrows 5 0 100 200 := by
  obtain ⟨s, hnext, hfound, howner, hlimit, hfits⟩ := exists_of_any
    (p := fun s => s.saving.loans.containsKey 0 = true ∧ (s.saving.loans.get 0).who = 5 ∧
      s.saving.globalLTVLimit.toNat < 2 ^ 32 ∧
      (s.saving.loans.get 0).collateralBalanceAvailable.toNat * (200 : PriceInUSDT).toNat *
        s.saving.globalLTVLimit.toNat < 2 ^ 128)
    (o := next (signedCall 5 (.applyLoan 1000 100)) exampleState) (by decide +kernel)
  refine ⟨s, hnext, (credit_grows_iff hfound howner hlimit (by decide) hfits).mpr ?_⟩
  exact ⟨by decide, by decide, Or.inl (by decide)⟩

/-- **The last 32 bits of a high price may be zero**: at `2 ^ 32` a loan has no credit, and a draw
panics. -/
theorem credit_shrinks : ¬∀ s : RuntimeState ℕ, Reachable next exampleState s →
    ∀ who loanId (price₁ price₂ : PriceInUSDT), s.saving.loans.containsKey loanId = true →
      (s.saving.loans.get loanId).who = who → s.saving.globalLTVLimit.toNat < 2 ^ 32 →
      0 < price₁ → price₁ ≤ price₂ →
      (s.saving.loans.get loanId).collateralBalanceAvailable.toNat * price₂.toNat *
        s.saving.globalLTVLimit.toNat < 2 ^ 128 → s.CreditGrows who loanId price₁ price₂ := by
  intro h
  obtain ⟨s, hnext, hfound, howner, hlimit, hfits⟩ := exists_of_any
    (p := fun s => s.saving.loans.containsKey 0 = true ∧ (s.saving.loans.get 0).who = 5 ∧
      s.saving.globalLTVLimit.toNat < 2 ^ 32 ∧
      (s.saving.loans.get 0).collateralBalanceAvailable.toNat *
        (4294967296 : PriceInUSDT).toNat * s.saving.globalLTVLimit.toNat < 2 ^ 128)
    (o := next (signedCall 5 (.applyLoan 1000 100)) exampleState) (by decide +kernel)
  have hgrows := h s (Reach.refl.tail trivial hnext) 5 0 4294967295 4294967296 hfound howner hlimit
    (by decide) (by decide) hfits
  exact (completes_draw_atPrice_iff hfound howner).mp (fun a => (hgrows.completes a).2) (by decide)

end MoneyPool
