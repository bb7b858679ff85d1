import MoneyPool.LoanTerms

/-!
# What draws do to a loan

A draw is checked against what is left of the collateral, from which the loan and every draw have
locked their worth. What is locked is the amount divided by the price – without the four decimal
places of a price, and without regard to the limit – so that most of the collateral can be drawn on
again and again. `MoneyPool.draws_within_limit_iff` says which draws keep a loan within the limit:
those that add up, with the loan, to no more than the limit allows.

`MoneyPool.draw_pays_iff` is about what a draw pays: nothing.
-/

namespace MoneyPool

open Pallet Pallet.Exec DepositLoan RuntimeState

variable {AccountId : Type} [DecidableEq AccountId] [Inhabited AccountId]
  {s s' s₀ s₁ : RuntimeState AccountId} {who : AccountId} {loanId : LoanId}
  {amount collateralAmount loanAmount : Balance} {amounts : List Balance}

/-! ### The call -/

/-- The rule of a draw. -/
theorem wp_draw {β : Build} {Q : Unit → RuntimeState AccountId → Prop}
    {E : DispatchError → RuntimeState AccountId → Prop} {P : Prop} :
    wp (draw (.signed who) loanId amount : Prog β AccountId Unit) Q E P s ↔
      (s.saving.paused = false → wp (drawFromLoan who loanId amount : Prog β AccountId Unit) Q E P
        s) ∧ (¬s.saving.paused = false → E (.other "module is paused") s) := by
  simp only [draw, wp_bind, wp_gets, wp_ensure, wp_ensureSigned]
  refine and_congr_left fun _ => forall_congr' fun _ => ⟨fun h => h.1 who rfl, fun h => ?_⟩
  exact ⟨fun _ hsigned => by cases hsigned; exact h, fun hno => absurd rfl (hno who)⟩

/-- A draw checks the balance of the loan for an overflow where sums are checked. -/
theorem drawFromLoan_fits {β : Build} :
    wp (drawFromLoan who loanId amount : Prog β AccountId Unit)
      (fun _ _ => β.sums = true →
        (s.saving.loans.get loanId).loanBalanceTotal.toNat + amount.toNat < 2 ^ 128)
      (fun _ _ => True) True s := by
  simp only [drawFromLoan, wp_bind, wp_gets, wp_ensure, wp_mul, wp_add, wp_sub, wp_div, wp_modify,
    wp_addTotalLoan, imp_true_iff, true_and, and_true]
  exact fun _ _ _ _ _ _ _ hfits _ _ _ => hfits

/-! ### A loan within the limit -/

namespace RuntimeState

/-- **A loan is within the limit**: `get_ltv` returns at most the limit for the collateral it was
granted against. -/
def WithinLimit (s : RuntimeState AccountId) (loanId : LoanId) : Prop :=
  wp (getLtv (s.saving.loans.get loanId).collateralBalanceOriginal
      (s.saving.loans.get loanId).loanBalanceTotal s.btcPrice : Prog .debug AccountId LTV)
    (fun ltv _ => ltv ≤ s.saving.globalLTVLimit) (fun _ _ => False) False s

/-- One product that fits is two products that fit. -/
theorem scaled_fits {x : Balance} (h : x.toNat * 10 ^ 8 < 2 ^ 128) :
    x.toNat * (ofU32 pricePrec).toNat < 2 ^ 128 ∧
      (x * ofU32 pricePrec).toNat * (ofU32 ltvPrec).toNat < 2 ^ 128 ∧
        (x * ofU32 pricePrec * ofU32 ltvPrec).toNat = x.toNat * 10 ^ 8 := by
  have hprec : (ofU32 pricePrec).toNat * (ofU32 ltvPrec).toNat = 10 ^ 8 := by decide
  rw [← hprec] at h ⊢
  obtain ⟨h1, h2⟩ := (mul_mul_fits_iff (by decide)).mpr h
  exact ⟨h1, h2, toNat_mul_mul h1 h2⟩

omit [DecidableEq AccountId] in
/-- The same, in numbers. -/
theorem withinLimit_iff
    (htotal : (s.saving.loans.get loanId).loanBalanceTotal.toNat * 10 ^ 8 < 2 ^ 128)
    (hworth : (s.saving.loans.get loanId).collateralBalanceOriginal.toNat * s.btcPrice.toNat <
      2 ^ 128) :
    s.WithinLimit loanId ↔ (s.saving.loans.get loanId).loanBalanceTotal.toNat * 10 ^ 8 <
      (s.saving.globalLTVLimit.toNat + 1) *
        ((s.saving.loans.get loanId).collateralBalanceOriginal.toNat * s.btcPrice.toNat) := by
  obtain ⟨h1, h2, hscaled⟩ := scaled_fits htotal
  rw [← toNat_ofU64] at hworth
  have hlimit := s.saving.globalLTVLimit.isLt
  simp only [WithinLimit, getLtv, wp_bind, wp_mul, wp_div, wp_unwrap_tryInto, guard_holds,
    guard_then, h1, h2, hworth, imp_true_iff, true_and]
  rw [BitVec.toNat_udiv, BitVec.le_def, BitVec.toNat_setWidth, BitVec.toNat_udiv, hscaled,
    BitVec.toNat_mul_of_lt hworth, ← toNat_ofU64 s.btcPrice]
  have hdivisor : (s.saving.loans.get loanId).collateralBalanceOriginal * ofU64 s.btcPrice ≠ 0 ↔
      0 < (s.saving.loans.get loanId).collateralBalanceOriginal.toNat *
        (ofU64 s.btcPrice).toNat := by
    rw [← BitVec.toNat_mul_of_lt hworth, Nat.pos_iff_ne_zero, ne_zero_iff]
  rw [hdivisor]
  constructor
  · rintro ⟨hpos, hfits, hle⟩
    rw [Nat.mod_eq_of_lt hfits] at hle
    exact (Nat.div_lt_iff_lt_mul hpos).mp (Nat.lt_succ_of_le hle)
  · intro hlt
    -- nothing is within the limit of no collateral
    have hpos := Nat.pos_of_mul_pos_left (Nat.zero_lt_of_lt hlt)
    have hle := Nat.le_of_lt_succ ((Nat.div_lt_iff_lt_mul hpos).mpr hlt)
    have hfits := lt_of_le_of_lt hle hlimit
    refine ⟨hpos, hfits, ?_⟩
    rwa [Nat.mod_eq_of_lt hfits]

end RuntimeState

/-! ### Runs that draw on a loan -/

/-- A state with the same loan, price and limit. -/
structure RuntimeState.SameTerms (s : RuntimeState AccountId) (loanId : LoanId)
    (s' : RuntimeState AccountId) : Prop where
  loan : s'.saving.loans.get loanId = s.saving.loans.get loanId
  price : s'.btcPrice = s.btcPrice
  limit : s'.saving.globalLTVLimit = s.saving.globalLTVLimit

/-- A draw on a loan. -/
def Step.drawOn (who : AccountId) (loanId : LoanId) (amount : Balance) : Step AccountId :=
  .extrinsic (.signed who) (.depositLoan (.draw loanId amount))

/-- **A run that draws on a loan**, with the amounts that are drawn, the last one first. Every step
is a draw on the loan, or leaves the loan, the price and the limit as they are. The build is the one
that checks everything, so that nothing overflows. -/
inductive DrawRun (loanId : LoanId) (s₁ : RuntimeState AccountId) :
    List Balance → RuntimeState AccountId → Prop
  | start : DrawRun loanId s₁ [] s₁
  | draw {amounts : List Balance} {s s' : RuntimeState AccountId} {who : AccountId}
      {amount : Balance} (h : DrawRun loanId s₁ amounts s)
      (hdraw : ((Step.drawOn who loanId amount).exec : Prog .debug AccountId Unit) s = .ok () s') :
      DrawRun loanId s₁ (amount :: amounts) s'
  | other {amounts : List Balance} {s s' : RuntimeState AccountId} {i : Step AccountId}
      (h : DrawRun loanId s₁ amounts s)
      (hstep : (i.exec : Prog .debug AccountId Unit) s = .ok () s' ∨
        ∃ e, (i.exec : Prog .debug AccountId Unit) s = .err e s')
      (hsame : s.SameTerms loanId s') : DrawRun loanId s₁ amounts s'

/-- **What a draw adds to a loan**, where nothing overflows. -/
theorem drawn_of_ok
    (h : ((Step.drawOn who loanId amount).exec : Prog .debug AccountId Unit) s = .ok () s') :
    (s.saving.loans.get loanId).loanBalanceTotal.toNat + amount.toNat < 2 ^ 128 ∧
      s' = s.drawn loanId amount := by
  have hspec := (wp_of_ok h).mp (wp_draw.mpr ⟨fun _ => wp_mono (wp_and drawFromLoan_fits
    drawFromLoan_spec) (fun _ _ hboth => hboth) (fun _ _ _ => trivial) (fun _ => trivial),
    fun _ => trivial⟩)
  exact ⟨hspec.1 rfl, hspec.2.2⟩

/-- **What a run that draws on a loan has done to it**: the amounts have been added to its balance,
and the collateral it was granted against, the price and the limit are the same. -/
structure RuntimeState.Indebted (s₁ : RuntimeState AccountId) (loanId : LoanId)
    (amounts : List Balance) (s : RuntimeState AccountId) : Prop where
  total : (s.saving.loans.get loanId).loanBalanceTotal.toNat =
    (s₁.saving.loans.get loanId).loanBalanceTotal.toNat + exactSum amounts
  original : (s.saving.loans.get loanId).collateralBalanceOriginal =
    (s₁.saving.loans.get loanId).collateralBalanceOriginal
  price : s.btcPrice = s₁.btcPrice
  limit : s.saving.globalLTVLimit = s₁.saving.globalLTVLimit

omit [DecidableEq AccountId] in
/-- A draw adds its amount. -/
theorem RuntimeState.Indebted.drawn (h : s₁.Indebted loanId amounts s)
    (hfits : (s.saving.loans.get loanId).loanBalanceTotal.toNat + amount.toNat < 2 ^ 128) :
    s₁.Indebted loanId (amount :: amounts) (s.drawn loanId amount) := by
  obtain ⟨htotal, horiginal, hprice, hlimit⟩ := h
  have hget : (s.drawn loanId amount).saving.loans.get loanId =
      { s.saving.loans.get loanId with
        loanBalanceTotal := (s.saving.loans.get loanId).loanBalanceTotal + amount
        collateralBalanceAvailable :=
          (s.saving.loans.get loanId).collateralBalanceAvailable - amount / s.drawPrice } := by
    simp only [RuntimeState.drawn, StorageMap.get_insert, if_true]
  refine ⟨?_, ?_, hprice, hlimit⟩
  · rw [hget, exactSum_cons, BitVec.toNat_add_of_lt hfits, htotal]
    omega
  · rw [hget, horiginal]

/-- **Along a run the amounts add up.** -/
theorem DrawRun.indebted (h : DrawRun loanId s₁ amounts s) : s₁.Indebted loanId amounts s := by
  induction h with
  | start => exact ⟨rfl, rfl, rfl, rfl⟩
  | draw _ hdraw ih =>
    obtain ⟨hfits, rfl⟩ := drawn_of_ok hdraw
    exact ih.drawn hfits
  | other _ _ hsame ih =>
    obtain ⟨htotal, horiginal, hprice, hlimit⟩ := ih
    refine ⟨?_, ?_, hsame.price.trans hprice, hsame.limit.trans hlimit⟩
    · rw [hsame.loan, htotal]
    · rw [hsame.loan, horiginal]

/-- **Draws keep a loan within the limit** if and only if they add up, with the amount of the loan,
to no more than the limit allows for its collateral. -/
theorem draws_within_limit_iff
    (happly :
      (applyLoan (.signed who) collateralAmount loanAmount : Prog .debug AccountId Unit) s₀ =
        .ok () s₁)
    (hrun : DrawRun s₀.saving.nextLoanId s₁ amounts s)
    (hfits : (s.saving.loans.get s₀.saving.nextLoanId).loanBalanceTotal.toNat * 10 ^ 8 < 2 ^ 128) :
    s.WithinLimit s₀.saving.nextLoanId ↔
      (s₀.amountOf collateralAmount loanAmount + exactSum amounts) * 10 ^ 8 <
        (s₀.saving.globalLTVLimit.toNat + 1) *
          (s₀.collateralOf collateralAmount loanAmount * s₀.btcPrice.toNat) := by
  obtain ⟨_, ⟨⟩, hcan, rfl⟩ := (wp_of_ok happly).mp applyLoan_spec
  obtain ⟨htotal, horiginal, hprice, hlimit⟩ := hrun.indebted
  have hlimit₁ : (s₀.withLoan who collateralAmount loanAmount).saving.globalLTVLimit =
      s₀.saving.globalLTVLimit := rfl
  rw [StorageMap.get_of_get? (get?_withLoan ..)] at htotal horiginal
  rw [btcPrice_withLoan] at hprice
  rw [hlimit₁] at hlimit
  have hworth := hcan.exact.2
  have hamount := toNat_loan_terms s₀ hcan.granted.asked
  have hcollateral := toNat_collateral_terms s₀ collateralAmount loanAmount
  rw [withinLimit_iff hfits (by rw [horiginal, hprice]; exact hworth), htotal, horiginal, hprice,
    hlimit, newLoan, hamount, hcollateral]

/-- The example with a limit of 100 per cent. -/
def evenState : RuntimeState ℕ :=
  GenesisConfig.build { exampleConfig with
    depositLoan := { exampleConfig.depositLoan with globalLTVLimit := 10000 } }
    |>.get (by decide +kernel)

/-- Account 5 borrows 9000 for a million, which may be borrowed 10000 on, and draws 999. -/
theorem draws_within_limit_example : ∃ s₁ s,
    (applyLoan (.signed 5) 1000000 9000 : Prog .debug ℕ Unit) evenState = .ok () s₁ ∧
      DrawRun 0 s₁ [999] s ∧ s.WithinLimit 0 := by
  obtain ⟨s₁, hs₁, hany⟩ := exists_of_any
    (p := fun s₁ => ((((Step.drawOn 5 0 999).exec : Prog .debug ℕ Unit) s₁).okState.any fun s =>
      decide ((s.saving.loans.get 0).loanBalanceTotal.toNat * 10 ^ 8 < 2 ^ 128)) = true)
    (o := ((applyLoan (.signed 5) 1000000 9000 : Prog .debug ℕ Unit) evenState).okState)
    (by decide +kernel)
  obtain ⟨s, hs, hfits⟩ := exists_of_any hany
  have happly := Outcome.eq_ok_of_okState hs₁
  have hrun : DrawRun 0 s₁ [999] s := .draw .start (Outcome.eq_ok_of_okState hs)
  have hid : evenState.saving.nextLoanId = 0 := by decide +kernel
  have hwithin := draws_within_limit_iff happly (hid ▸ hrun) (hid ▸ hfits)
  rw [hid] at hwithin
  exact ⟨s₁, s, happly, hrun, hwithin.mpr (by decide +kernel)⟩

/-- **What may be drawn has hardly become less.** Account 5 borrows 9999 for a million, which may
be borrowed 10000 on, and draws 9999 more. -/
theorem not_draws_within_limit : ¬∀ (s₀ s₁ s : RuntimeState ℕ) who collateralAmount loanAmount
    amounts, Reachable next evenState s₀ → 0 < s₀.btcPrice.toNat → s₀.btcPrice.toNat < 2 ^ 32 →
    s₀.saving.globalLTVLimit.toNat ≤ ltvPrec.toNat →
    (applyLoan (.signed who) collateralAmount loanAmount : Prog .debug ℕ Unit) s₀ = .ok () s₁ →
    DrawRun s₀.saving.nextLoanId s₁ amounts s →
    (s.saving.loans.get s₀.saving.nextLoanId).loanBalanceTotal.toNat * 10 ^ 8 < 2 ^ 128 →
      s.WithinLimit s₀.saving.nextLoanId := by
  intro h
  obtain ⟨s₁, hs₁, hany⟩ := exists_of_any
    (p := fun s₁ => ((((Step.drawOn 5 0 9999).exec : Prog .debug ℕ Unit) s₁).okState.any fun s =>
      decide ((s.saving.loans.get 0).loanBalanceTotal.toNat = 19998 ∧
        (s.saving.loans.get 0).collateralBalanceOriginal.toNat * s.btcPrice.toNat = 10 ^ 8 ∧
          s.saving.globalLTVLimit.toNat = 10 ^ 4)) = true)
    (o := ((applyLoan (.signed 5) 1000000 9999 : Prog .debug ℕ Unit) evenState).okState)
    (by decide +kernel)
  obtain ⟨s, hs, htotal, hworth, hlimit⟩ := exists_of_any hany
  have hid : evenState.saving.nextLoanId = 0 := by decide +kernel
  have hrun : DrawRun 0 s₁ [9999] s := .draw .start (Outcome.eq_ok_of_okState hs)
  have hfits : (s.saving.loans.get 0).loanBalanceTotal.toNat * 10 ^ 8 < 2 ^ 128 := by
    rw [htotal]
    decide
  have hwithin := h evenState s₁ s 5 1000000 9999 [9999] .refl (by decide +kernel)
    (by decide +kernel) (by decide +kernel) (Outcome.eq_ok_of_okState hs₁) (hid ▸ hrun)
    (hid ▸ hfits)
  rw [hid, withinLimit_iff hfits (by rw [hworth]; decide), htotal, hworth, hlimit] at hwithin
  exact absurd hwithin (by decide)

/-! ### What a draw pays -/

/-- **How a draw ends** where its credit can be computed and sums wrap: with the draw recorded, in
its checks, or – if it is covered at a price of zero – in a panic. -/
theorem drawFromLoan_exact {products : Bool}
    (hfits : CreditFits ⟨false, products⟩ s (s.saving.loans.get loanId)) :
    wp (drawFromLoan who loanId amount : Prog ⟨false, products⟩ AccountId Unit)
      (fun _ s' => s.CanDraw who loanId amount ∧ s' = s.drawn loanId amount)
      (fun _ s' => ¬(s.saving.loans.containsKey loanId = true ∧
        (s.saving.loans.get loanId).who = who ∧ amount ≤ s.credit (s.saving.loans.get loanId)) ∧
        s' = s)
      (s.drawPrice = 0 ∧ amount ≤ s.credit (s.saving.loans.get loanId)) s := by
  have hltv : ofU32 ltvPrec ≠ 0 := by decide
  have hprec : ofU32 pricePrec ≠ 0 := by decide
  simp only [drawFromLoan, wp_bind, wp_gets, wp_ensure, wp_mul, wp_add, wp_sub, wp_div, wp_modify,
    wp_addTotalLoan, Bool.false_eq_true, false_imp_iff, not_true_eq_false, true_imp_iff, true_and,
    and_true]
  refine ⟨fun hfound => ⟨fun howner => ⟨fun hno => absurd hfits.1 hno, fun _ =>
    ⟨fun hno => absurd hfits.2 hno, fun _ => ⟨fun hno => absurd hltv hno, fun _ =>
    ⟨fun hno => absurd hprec hno, fun _ => ⟨fun hle => ⟨fun hzero => ?_, fun hprice => ?_⟩,
      fun hno hcan => hno hcan.2.2⟩⟩⟩⟩⟩, fun hno hcan => hno hcan.2.1⟩,
    fun hno hcan => hno hcan.1⟩
  · exact ⟨not_not.mp hzero, hle⟩
  · refine ⟨⟨hfound, howner, hle, hprice⟩, ?_⟩
    simp only [drawn, withSaving, StorageMap.insert_insert, StorageMap.get_insert, if_true]
    rfl

omit [DecidableEq AccountId] [Inhabited AccountId] in
/-- The release build computes any credit. -/
theorem creditFits_release (loan : Loan AccountId) : CreditFits .release s loan :=
  ⟨fun h => (nomatch h), fun h => (nomatch h)⟩

/-- **How a draw ends** in the release build: with the draw recorded, or in its checks. Only a draw
of nothing can panic. -/
theorem drawFromLoan_total :
    wp (drawFromLoan who loanId amount : Prog .release AccountId Unit)
      (fun _ s' => s.CanDraw who loanId amount ∧ s' = s.drawn loanId amount)
      (fun _ s' => ¬s.CanDraw who loanId amount ∧ s' = s) (amount = 0) s := by
  refine wp_mono (drawFromLoan_exact (creditFits_release _)) (fun _ _ h => h) ?_ ?_
  · rintro _ _ ⟨hno, rfl⟩
    exact ⟨fun hcan => hno ⟨hcan.found, hcan.owner, hcan.covered⟩, rfl⟩
  · rintro ⟨hzero, hle⟩
    -- without a price there is no credit
    have hnone : s.drawPrice = 0#128 := hzero
    rw [credit, hnone, BitVec.mul_zero, BitVec.zero_mul, BitVec.zero_udiv, BitVec.zero_udiv] at hle
    exact BitVec.le_zero_iff.mp hle

/-- **A draw that passes its checks succeeds.** -/
theorem drawFromLoan_ok {products : Bool} (h : s.CanDraw who loanId amount)
    (hfits : CreditFits ⟨false, products⟩ s (s.saving.loans.get loanId)) :
    (drawFromLoan who loanId amount : Prog ⟨false, products⟩ AccountId Unit) s =
      .ok () (s.drawn loanId amount) := by
  refine eq_ok_of_wp (wp_mono (drawFromLoan_exact hfits) (fun _ _ hok => hok.2) ?_ ?_)
  · rintro _ _ ⟨hno, -⟩
    exact hno ⟨h.found, h.owner, h.covered⟩
  · exact fun hno => h.price hno.1

/-- **A draw pays out what it charges.** -/
structure RuntimeState.PaysDraw (s : RuntimeState AccountId) (who : AccountId) (loanId : LoanId)
    (amount : Balance) (s' : RuntimeState AccountId) : Prop where
  borrower : (s'.assets.free s.saving.loanAssetId who).toNat =
    (s.assets.free s.saving.loanAssetId who).toNat + amount.toNat
  collection : (s'.assets.free s.saving.loanAssetId s.saving.collectionAccountId).toNat +
    amount.toNat = (s.assets.free s.saving.loanAssetId s.saving.collectionAccountId).toNat
  debt : (s'.saving.loans.get loanId).loanBalanceTotal.toNat =
    (s.saving.loans.get loanId).loanBalanceTotal.toNat + amount.toNat
  totalLoan : s'.saving.totalLoan.toNat = s.saving.totalLoan.toNat + amount.toNat

/-- **A draw is honest**: where it succeeds it pays out what it charges, and where the pool cannot
pay it returns an error and has changed nothing. -/
structure RuntimeState.DrawsHonestly (s : RuntimeState AccountId) (who : AccountId)
    (loanId : LoanId) (amount : Balance) : Prop where
  paid : ∀ s', (draw (.signed who) loanId amount : Prog .release AccountId Unit) s = .ok () s' →
    s.PaysDraw who loanId amount s'
  short : s.assets.free s.saving.loanAssetId s.saving.collectionAccountId < amount →
    ∃ e, (draw (.signed who) loanId amount : Prog .release AccountId Unit) s = .err e s

/-- A draw of nothing charges nothing. -/
theorem paysDraw_zero : s.PaysDraw who loanId 0 (s.drawn loanId 0) := by
  refine ⟨rfl, rfl, ?_, ?_⟩
  · simp [drawn, StorageMap.get_insert]
  · simp [drawn]

/-- **A draw is honest** if and only if nothing is drawn: the amount is zero, or the draw is refused
in its checks. -/
theorem draw_pays_iff : s.DrawsHonestly who loanId amount ↔
    amount = 0 ∨ ¬(s.saving.paused = false ∧ s.CanDraw who loanId amount) := by
  have hspec : wp (draw (.signed who) loanId amount : Prog .release AccountId Unit)
      (fun _ s' => (s.saving.paused = false ∧ s.CanDraw who loanId amount) ∧
        s' = s.drawn loanId amount)
      (fun _ s' => ¬(s.saving.paused = false ∧ s.CanDraw who loanId amount) ∧ s' = s)
      (amount = 0) s := by
    refine wp_draw.mpr ⟨fun hopen => ?_, fun hno => ⟨fun h => hno h.1, rfl⟩⟩
    exact wp_mono drawFromLoan_total (fun _ _ h => ⟨⟨hopen, h.1⟩, h.2⟩)
      (fun _ _ h => ⟨fun hcan => h.1 hcan.2, h.2⟩) id
  constructor
  · rintro ⟨hpaid, -⟩
    rcases cases_of_wp hspec with ⟨⟨⟩, _, hx, -, rfl⟩ | ⟨e, _, -, hno, -⟩ | ⟨-, hzero⟩
    · -- the balances are what they were
      have hborrower : (s.assets.free s.saving.loanAssetId who).toNat =
        (s.assets.free s.saving.loanAssetId who).toNat + amount.toNat := (hpaid _ hx).borrower
      exact Or.inl (BitVec.eq_of_toNat_eq (Nat.add_eq_left.mp hborrower.symm))
    · exact Or.inr hno
    · exact Or.inl hzero
  · intro hnothing
    refine ⟨fun s' hx => ?_, fun hshort => ?_⟩
    · obtain ⟨hcan, rfl⟩ := (wp_of_ok hx).mp hspec
      obtain rfl := hnothing.resolve_right (not_not_intro hcan)
      exact paysDraw_zero
    · have hsome : amount ≠ 0 := by
        rintro rfl
        exact Nat.not_lt_zero _ (BitVec.lt_def.mp hshort)
      have hno := hnothing.resolve_left hsome
      rcases cases_of_wp hspec with ⟨_, _, -, hcan, -⟩ | ⟨e, _, hx, -, rfl⟩ | ⟨-, hzero⟩
      · exact absurd hcan hno
      · exact ⟨e, hx⟩
      · exact absurd hzero hsome

/-- **A draw pays nothing.** Account 5 borrows 100 and draws 100 more, and has what it had. -/
theorem not_draw_pays : ¬∀ s, Reachable next exampleState s → ∀ who loanId amount,
    s.saving.loanAssetId = s.saving.collectionAssetId → who ≠ s.saving.collectionAccountId →
      s.DrawsHonestly who loanId amount := by
  intro h
  obtain ⟨s, hnext, hassets, hwho, hany⟩ := exists_of_any
    (p := fun s => s.saving.loanAssetId = s.saving.collectionAssetId ∧
      5 ≠ s.saving.collectionAccountId ∧
      (((draw (.signed 5) 0 100 : Prog .release ℕ Unit) s).okState.any fun s' =>
        decide (s'.assets.free s.saving.loanAssetId 5 = s.assets.free s.saving.loanAssetId 5)) =
          true)
    (o := next (signedCall 5 (.applyLoan 3 100)) exampleState) (by decide +kernel)
  obtain ⟨s', hs', hsame⟩ := exists_of_any hany
  have hreach : Reachable next exampleState s := Reach.refl.tail trivial hnext
  have hpaid := ((h s hreach 5 0 100 hassets hwho).paid s' (Outcome.eq_ok_of_okState hs')).borrower
  rw [hsame] at hpaid
  have hamount : (100 : Balance).toNat = 100 := rfl
  omega

end MoneyPool
