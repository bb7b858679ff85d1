import MoneyPool.GenericAsset.Changes
import MoneyPool.LoanIndex
import MoneyPool.Liquidation

/-!
# A loan that is repaid at once

Applying for a loan and repaying it are two long operations with checks of their own, in two assets
and between up to three accounts, two of which may be the same one. `MoneyPool.repay_undoes_apply`
says that the second undoes the first: where nothing overflows, a loan can be repaid right after it
has been granted, and nothing but an id has been used up.

That the id of the new loan is not in use, neither in the book nor on the list of the loans in
liquidation, is an invariant of the runs that do not use up the last id
(`MoneyPool.RuntimeState.FreshId`).
-/

namespace MoneyPool

open Pallet Pallet.Exec DepositLoan RuntimeState GenericAsset

variable {AccountId : Type} [DecidableEq AccountId] [Inhabited AccountId]
  {s s' s₀ : RuntimeState AccountId} {who : AccountId} {loanId : LoanId}
  {collateralAmount loanAmount : Balance} {β : Build}

/-! ### An id that is not in use -/

/-- **The next id is not in use**: there is no loan under it, no account has it on its list, and it
is not in liquidation. -/
structure RuntimeState.FreshId (s : RuntimeState AccountId) : Prop where
  loans : s.saving.loans.get? s.saving.nextLoanId = none
  listed : ∀ who, s.saving.nextLoanId ∉ s.saving.loansByAccount.get who
  calm : s.saving.checkLoanInLiquidation s.saving.nextLoanId = false

omit [Inhabited AccountId] in
/-- What is above all ids is not in use. -/
theorem RuntimeState.freshId_of_indexed (hindex : s.saving.Indexed)
    (hlist : s.saving.ListsLiquidating) : s.FreshId := by
  have hnone : s.saving.loans.get? s.saving.nextLoanId = none := by
    refine StorageMap.containsKey_eq_false.mp (Bool.eq_false_iff.mpr fun hkey => ?_)
    exact BitVec.lt_irrefl _ (hindex.below _ hkey)
  refine ⟨hnone, fun who => ?_, Bool.eq_false_iff.mpr fun hmem => ?_⟩
  · rw [← List.count_eq_zero, hindex.listed, Store.ownerOf, hnone]
    exact if_neg (Option.some_ne_none who).symm
  · obtain ⟨loan, hget, -⟩ := (hlist.mem_iff _).mp (Store.checkLoanInLiquidation_iff.mp hmem)
    exact Option.some_ne_none loan (hget.symm.trans hnone)

/-- **The next id is not in use** in any state that is reached without using up the last one. -/
theorem freshId_of_reach {config : GenesisConfig AccountId} (hgenesis : config.build = some s₀)
    (hreach : Reach next (fun s i => s.KeepsIds i) s₀ s) : s.FreshId := by
  suffices hboth : s.saving.Indexed ∧ s.saving.ListsLiquidating from
    freshId_of_indexed hboth.1 hboth.2
  refine invariant_of_reach (I := fun s => s.saving.Indexed ∧ s.saving.ListsLiquidating) hgenesis
    hreach ⟨indexed_of_build hgenesis, listsLiquidating_of_build hgenesis⟩ ?_
  rintro s i ok s' heff hnext hkeys hi ⟨hindex, hlist⟩
  refine ⟨heff.indexed hnext hkeys hindex hi, heff.listsLiquidating hkeys hlist ?_⟩
  -- no loan is granted under an id in liquidation, since that id would be below the counter
  have hcalm := (freshId_of_indexed hindex hlist).calm
  have hnot : s.saving.nextLoanId ∉ s.saving.inLiquidation := fun hmem =>
    Bool.false_ne_true (hcalm.symm.trans (Store.checkLoanInLiquidation_iff.mpr hmem))
  unfold KeepsList
  split
  · exact fun _ _ => hnot
  · trivial

/-! ### What the two operations need -/

/-- **What a loan has been checked for** where nothing overflows, apart from its figures: both
transfers fit, and there is another id. -/
structure RuntimeState.ApplyFits (s : RuntimeState AccountId) (who : AccountId)
    (collateralAmount loanAmount : Balance) : Prop where
  given : s.assets.CanMove s.saving.collateralAssetId who s.saving.pawnShop
    (s.terms collateralAmount loanAmount).collateralAmount
  nextId : s.saving.nextLoanId.toNat + 1 < 2 ^ 64
  paid : (s.collateralTaken who collateralAmount loanAmount).assets.CanMove
    s.saving.collectionAssetId s.saving.collectionAccountId who loanAmount

omit [Inhabited AccountId] in
/-- A loan that is granted in the build that checks sums fits. -/
theorem applyForLoan_fits :
    wp (applyForLoan who collateralAmount loanAmount : Prog .debug AccountId Unit)
      (fun _ _ => s.ApplyFits who collateralAmount loanAmount) (fun _ _ => True) True s := by
  simp only [applyForLoan, wp_bind, wp_gets, wp_ensure, imp_true_iff, and_true]
  refine fun _ _ => wp_mono getCollateralLoan_spec ?_ (fun _ _ _ => trivial) id
  rintro r _ ⟨-, rfl, rfl⟩
  simp only [wp_makeTransferWithEvent, wp_getNextLoanId, wp_div, wp_sub, wp_modify,
    wp_addTotalLoan, wp_addTotalCollateral, imp_true_iff, true_and, and_true]
  intro _ hcov hroom hid _ _ hpaid hroom' _ _
  exact ⟨⟨hcov, hroom trivial⟩, hid trivial, ⟨hpaid, hroom' trivial⟩⟩

/-! ### Back to where it started -/

/-- **Only an id has been used up**: the balances, the book of loans, the lists of the accounts, the
counters and the loans in liquidation are what they were, and so is everything else. -/
structure RuntimeState.Restored (s s' : RuntimeState AccountId) : Prop where
  free : ∀ assetId w, s'.assets.free assetId w = s.assets.free assetId w
  loans : s'.saving.loans = s.saving.loans
  loansByAccount : ∀ w, s'.saving.loansByAccount.get w = s.saving.loansByAccount.get w
  totalLoan : s'.saving.totalLoan = s.saving.totalLoan
  totalCollateral : s'.saving.totalCollateral = s.saving.totalCollateral
  liquidatingLoans : s'.saving.liquidatingLoans = s.saving.liquidatingLoans
  nextLoanId : s'.saving.nextLoanId.toNat = s.saving.nextLoanId.toNat + 1
  rest : s' = { s with
    assets := { s.assets with freeBalance := s'.assets.freeBalance }
    saving := { s.saving with
      loansByAccount := s'.saving.loansByAccount, nextLoanId := s'.saving.nextLoanId } }

section Back

variable (hassets : s.saving.loanAssetId = s.saving.collectionAssetId) (hl : loanAmount ≠ 0)

include hassets hl

omit [Inhabited AccountId] in
/-- Once the loan is paid back, only the collateral has moved. -/
theorem free_paidBack_withLoan (assetId : AssetId) (w : AccountId) :
    ((s.withLoan who collateralAmount loanAmount).paidBack who
        (s.newLoan who collateralAmount loanAmount)).free assetId w =
      (s.collateralTaken who collateralAmount loanAmount).assets.free assetId w := by
  have hamount : (s.newLoan who collateralAmount loanAmount).loanBalanceTotal = loanAmount :=
    loanAmount_terms_of_ne hl
  rw [paidBack, hamount]
  simp only [withLoan, collateralTaken, hassets]
  exact Store.free_moved_back

omit [Inhabited AccountId] in
/-- **A loan and its repayment** use up an id and nothing else. -/
theorem restored_repaid (hfresh : s.FreshId) (hfits : s.ApplyFits who collateralAmount loanAmount) :
    s.Restored ((s.withLoan who collateralAmount loanAmount).repaid who
      (s.newLoan who collateralAmount loanAmount) s.saving.nextLoanId) := by
  generalize ht : (s.withLoan who collateralAmount loanAmount).repaid who
    (s.newLoan who collateralAmount loanAmount) s.saving.nextLoanId = t
  have hfree (assetId : AssetId) (w : AccountId) :
      t.assets.free assetId w = s.assets.free assetId w := by
    rw [← ht]
    exact (Store.free_moved_congr (free_paidBack_withLoan hassets hl)).trans Store.free_moved_back
  have honly : t.assets = { s.assets with freeBalance := t.assets.freeBalance } := by
    rw [← ht]
    exact Store.moved_of_eq (Store.moved_of_eq (Store.moved_of_eq (Store.moved_of_eq rfl)))
  have hloans : t.saving.loans = s.saving.loans := by
    rw [← ht]
    exact StorageMap.remove_insert_new hfresh.loans _
  have hloan : t.saving.totalLoan = s.saving.totalLoan := by
    rw [← ht]
    exact add_sub_cancel_right _ _
  have hcollateral : t.saving.totalCollateral = s.saving.totalCollateral := by
    rw [← ht]
    exact add_sub_cancel_right _ _
  have hlists (w : AccountId) :
      t.saving.loansByAccount.get w = s.saving.loansByAccount.get w := by
    simp only [← ht, repaid, withLoan, collateralTaken, StorageMap.get_mutate]
    split
    · -- the new id comes off again, and no other one
      rename_i hw
      have hkept : ∀ k ∈ s.saving.loansByAccount.get who, decide (k ≠ s.saving.nextLoanId) = true :=
        fun k hk => decide_eq_true fun heq => hfresh.listed who (heq ▸ hk)
      rw [if_true, List.filter_append, List.filter_eq_self.mpr hkept, hw,
        List.filter_cons_of_neg (by simp), List.filter_nil, List.append_nil]
    · rfl
  have hsame : t = { s with
      assets := t.assets
      saving := { s.saving with
        nextLoanId := t.saving.nextLoanId, loans := t.saving.loans
        loansByAccount := t.saving.loansByAccount, totalLoan := t.saving.totalLoan
        totalCollateral := t.saving.totalCollateral } } := by
    rw [← ht]
    rfl
  refine ⟨hfree, hloans, hlists, hloan, hcollateral, ?_, ?_, ?_⟩
  · rw [← ht]
    rfl
  · rw [← ht]
    exact BitVec.toNat_add_of_lt hfits.nextId
  · rw [← honly]
    rw [hloans, hloan, hcollateral] at hsame
    exact hsame

end Back

omit [Inhabited AccountId] in
/-- The pawn shop still has the collateral of a loan that has just been paid out, also if it is the
collection account and has paid the loan from the same asset. -/
theorem collateral_le_free_withLoan (hfunded : loanAmount ≤ s.cash)
    (hfits : s.ApplyFits who collateralAmount loanAmount) :
    (s.terms collateralAmount loanAmount).collateralAmount ≤
      (s.withLoan who collateralAmount loanAmount).assets.free s.saving.collateralAssetId
        s.saving.pawnShop := by
  have htaken := hfits.given.back.covered
  rcases eq_or_ne s.saving.pawnShop s.saving.collectionAccountId with hshop | hshop
  · rcases eq_or_ne s.saving.collectionAccountId who with hwho | hwho
    · simp only [withLoan, hwho, Store.moved_self]
      exact htaken
    rcases eq_or_ne s.saving.collateralAssetId s.saving.collectionAssetId with hasset | hasset
    · -- what the pawn shop has had before pays the loan
      have hcash := BitVec.le_def.mp hfunded
      have hroom := hfits.given.room (hshop ▸ hwho.symm)
      have hpaid := hfits.paid.covered
      have hfree : (s.collateralTaken who collateralAmount loanAmount).assets.free
          s.saving.collectionAssetId s.saving.collectionAccountId =
          s.assets.free s.saving.collectionAssetId s.saving.collectionAccountId +
            (s.terms collateralAmount loanAmount).collateralAmount := by
        rw [collateralTaken, hasset, hshop]
        exact Store.free_moved_to hwho.symm
      rw [hasset, hshop] at hroom ⊢
      rw [cash] at hcash
      simp only [withLoan]
      rw [Store.free_moved_from hwho, BitVec.le_def, BitVec.toNat_sub_of_le hpaid, hfree,
        BitVec.toNat_add_of_lt hroom]
      omega
    · simp only [withLoan]
      rw [Store.free_moved_asset hasset]
      exact htaken
  · exact BitVec.le_trans htaken (hfits.paid.le_free hshop)

/-- **The checks of the repayment follow from what the loan has left behind.** -/
theorem canTryRepay_withLoan (hassets : s.saving.loanAssetId = s.saving.collectionAssetId)
    (hl : loanAmount ≠ 0) (hfresh : s.FreshId)
    (hcan : s.CanApply .debug who collateralAmount loanAmount)
    (hfits : s.ApplyFits who collateralAmount loanAmount) :
    (s.withLoan who collateralAmount loanAmount).CanTryRepay who
      (s.newLoan who collateralAmount loanAmount) s.saving.nextLoanId := by
  have hget := get?_withLoan (s := s) who collateralAmount loanAmount
  have hamount : (s.newLoan who collateralAmount loanAmount).loanBalanceTotal = loanAmount :=
    loanAmount_terms_of_ne hl
  refine ⟨StorageMap.containsKey_iff_exists.mpr ⟨_, hget⟩, (StorageMap.get_of_get? hget).symm, rfl,
    ?_, ?_, hfresh.calm⟩
  · rw [hamount]
    exact hassets ▸ hfits.paid.back.covered
  · refine BitVec.le_trans ?_ (collateral_le_free_withLoan hcan.funded hfits)
    have hlocked := hcan.available rfl
    rw [BitVec.le_def, newLoan, BitVec.toNat_sub_of_le (BitVec.le_def.mpr hlocked)]
    exact Nat.sub_le _ _

omit [Inhabited AccountId] in
/-- **The repayment does not overflow**: every sum takes back what the loan has added. -/
theorem repayFits_withLoan (hassets : s.saving.loanAssetId = s.saving.collectionAssetId)
    (hl : loanAmount ≠ 0) (hcan : s.CanApply .debug who collateralAmount loanAmount)
    (hfits : s.ApplyFits who collateralAmount loanAmount) :
    (s.withLoan who collateralAmount loanAmount).RepayFits who
      (s.newLoan who collateralAmount loanAmount) := by
  have hamount : (s.newLoan who collateralAmount loanAmount).loanBalanceTotal = loanAmount :=
    loanAmount_terms_of_ne hl
  refine ⟨?_, ?_, ?_, ?_⟩
  · rw [hamount]
    exact hassets ▸ hfits.paid.back.room
  · exact (hfits.given.back.of_free (free_paidBack_withLoan hassets hl _)).room
  · have hsum := BitVec.toNat_add_of_lt (hcan.totalLoan rfl)
    exact (Nat.le_add_left _ _).trans hsum.ge
  · have hsum := BitVec.toNat_add_of_lt (hcan.totalCollateral rfl)
    exact (Nat.le_add_left _ _).trans hsum.ge

/-- **A repayment undoes its loan.** From every state reached without using up the last id, a loan
of an amount that has been asked for, granted where nothing overflows and in the asset that loans
are repaid in, can be repaid at once – in any build – and leaves nothing behind but an id that is
used up. -/
theorem repay_undoes_apply {config : GenesisConfig AccountId} (hgenesis : config.build = some s₀)
    (hreach : Reach next (fun s i => s.KeepsIds i) s₀ s)
    (hassets : s.saving.loanAssetId = s.saving.collectionAssetId) (hl : loanAmount ≠ 0)
    (happly : (applyLoan (.signed who) collateralAmount loanAmount : Prog .debug AccountId Unit) s =
      .ok () s') :
    ∃ s'', (repayLoan (.signed who) s.saving.nextLoanId : Prog β AccountId Unit) s' = .ok () s'' ∧
      s.Restored s'' := by
  have hfresh := freshId_of_reach hgenesis hreach
  have hspec : s.saving.paused = false ∧ s.ApplyFits who collateralAmount loanAmount ∧
      s.CanApply .debug who collateralAmount loanAmount ∧
      s' = s.withLoan who collateralAmount loanAmount := by
    refine (wp_of_ok (Q := fun _ s' => s.saving.paused = false ∧
      s.ApplyFits who collateralAmount loanAmount ∧
      s.CanApply .debug who collateralAmount loanAmount ∧
      s' = s.withLoan who collateralAmount loanAmount) (E := fun _ _ => True) (P := True)
      happly).mp ?_
    simp only [applyLoan, wp_bind, wp_gets, wp_ensure, wp_ensureSigned, imp_true_iff, and_true]
    rintro hopen _ ⟨⟩
    exact wp_mono (wp_and applyForLoan_fits applyForLoan_spec) (fun _ _ h => ⟨hopen, h⟩)
      (fun _ _ _ => trivial) fun _ => trivial
  obtain ⟨hopen, hfits, hcan, rfl⟩ := hspec
  have htry := canTryRepay_withLoan hassets hl hfresh hcan hfits
  have hret : (s.withLoan who collateralAmount loanAmount).CanReturn who
      (s.newLoan who collateralAmount loanAmount) :=
    (hfits.given.back.of_free (free_paidBack_withLoan hassets hl _)).covered
  have hrepay : (repayForLoan who s.saving.nextLoanId : Prog β AccountId Unit)
      (s.withLoan who collateralAmount loanAmount) = .ok () _ :=
    repayForLoan_ok htry hret fun _ => repayFits_withLoan hassets hl hcan hfits
  refine ⟨_, eq_ok_of_wp ?_, restored_repaid hassets hl hfresh hfits⟩
  simp only [repayLoan, wp_bind, wp_gets, wp_ensure, wp_ensureSigned]
  refine ⟨fun _ => ⟨?_, fun hno => hno who rfl⟩, fun hno => hno hopen⟩
  rintro _ ⟨⟩
  exact (wp_of_ok hrepay).mpr rfl

/-- A loan of 100 on 3 is repaid at once. -/
theorem repay_undoes_apply_example : ∃ s' s'',
    (applyLoan (.signed 5) 3 100 : Prog .debug ℕ Unit) exampleState = .ok () s' ∧
      (repayLoan (.signed 5) exampleState.saving.nextLoanId : Prog .debug ℕ Unit) s' = .ok () s'' ∧
        exampleState.Restored s'' := by
  obtain ⟨s', hs', -⟩ := exists_of_any (p := fun _ => True)
    (o := ((applyLoan (.signed 5) 3 100 : Prog .debug ℕ Unit) exampleState).okState)
    (by decide +kernel)
  have happly := Outcome.eq_ok_of_okState hs'
  obtain ⟨s'', hback⟩ : ∃ s'', (repayLoan (.signed 5) exampleState.saving.nextLoanId :
      Prog .debug ℕ Unit) s' = .ok () s'' ∧ exampleState.Restored s'' :=
    repay_undoes_apply exampleConfig_build .refl (by decide +kernel) (by decide) happly
  exact ⟨s', s'', happly, hback⟩

end MoneyPool
