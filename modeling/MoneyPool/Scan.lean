import MoneyPool.GenericAsset.Frozen
import MoneyPool.Panics
import MoneyPool.Prices
import MoneyPool.Thresholds

/-!
# Whether the scan gets through

The scan divides what every loan amounts to by the worth of the collateral that is left of
it, and wants the quotient to fit a word of 64 bits. Nothing in the scan guards that: one loan
for which it fails stops the chain. `MoneyPool.HasRatio` is the condition on the two figures of
a loan and the price, and `MoneyPool.RuntimeState.KeepsRatios` asks for it wherever a step
writes one of the three: a loan is granted, gets collateral or is drawn on, the prices are
averaged, the collateral asset or its symbol is exchanged. As long as all steps meet it, every
block gets through its scan (`MoneyPool.scan_completes`).
-/

namespace MoneyPool

open Pallet Pallet.Exec DepositLoan RuntimeState

variable {AccountId : Type}

/-! ### Figures that have a ratio -/

/-- **The figures of a loan have a ratio**: the worth of the collateral is not a multiple of
`2 ^ 128`, which is zero to the scan, and the amount of the loan, with eight decimal places and
as far as 128 bits hold it, is less than `2 ^ 64` times that worth. -/
structure HasRatio (available total : Balance) (price : PriceInUSDT) : Prop where
  divisor : available.toNat * price.toNat % 2 ^ 128 ≠ 0
  fits : total.toNat * 10 ^ 8 % 2 ^ 128 < 2 ^ 64 * (available.toNat * price.toNat % 2 ^ 128)

/-- A price is the same as a balance. -/
theorem toNat_ofU64 (price : PriceInUSDT) : (ofU64 price).toNat = price.toNat :=
  BitVec.toNat_setWidth_of_le (by decide)

/-- The LTV of a loan, before it is narrowed. -/
theorem toNat_ltvQuotient (loan : Loan AccountId) (price : PriceInUSDT) :
    (loan.ltvQuotient price).toNat = loan.loanBalanceTotal.toNat * 10 ^ 8 % 2 ^ 128 /
      (loan.collateralBalanceAvailable.toNat * price.toNat % 2 ^ 128) := by
  have hprec : ofU32 pricePrec * ofU32 ltvPrec = (10 ^ 8 : Balance) := by decide
  rw [Loan.ltvQuotient, BitVec.toNat_udiv, BitVec.mul_assoc, hprec, BitVec.toNat_mul,
    BitVec.toNat_mul, toNat_ofU64]
  rfl

/-- The LTV of a loan can be computed exactly if its figures have a ratio. -/
theorem hasLtv_iff {loan : Loan AccountId} {price : PriceInUSDT} :
    loan.HasLtv .release price ↔
      HasRatio loan.collateralBalanceAvailable loan.loanBalanceTotal price := by
  have hdivisor : loan.collateralBalanceAvailable * ofU64 price ≠ 0 ↔
      loan.collateralBalanceAvailable.toNat * price.toNat % 2 ^ 128 ≠ 0 := by
    rw [ne_zero_iff, BitVec.toNat_mul, toNat_ofU64]
  have hfits (hne : loan.collateralBalanceAvailable.toNat * price.toNat % 2 ^ 128 ≠ 0) :
      (loan.ltvQuotient price).toNat < 2 ^ 64 ↔ loan.loanBalanceTotal.toNat * 10 ^ 8 % 2 ^ 128 <
        2 ^ 64 * (loan.collateralBalanceAvailable.toNat * price.toNat % 2 ^ 128) := by
    rw [toNat_ltvQuotient, Nat.div_lt_iff_lt_mul (Nat.pos_of_ne_zero hne)]
  constructor
  · intro h
    have hne := hdivisor.mp h.divisor
    exact ⟨hne, (hfits hne).mp h.fits⟩
  · intro h
    exact ⟨hdivisor.mpr h.divisor, (hfits h.divisor).mpr h.fits,
      fun hp => (Bool.false_ne_true hp).elim⟩

/-! ### The book at a price -/

section Book

variable [DecidableEq AccountId] [Inhabited AccountId]

namespace DepositLoan.Store

/-- The scan gets past a loan: the loan is in liquidation, or its figures have a ratio. -/
def Passes (t : DepositLoan.Store AccountId) (price : PriceInUSDT) (loanId : LoanId) : Prop :=
  loanId ∈ t.inLiquidation ∨ HasRatio (t.loans.get loanId).collateralBalanceAvailable
    (t.loans.get loanId).loanBalanceTotal price

/-- **The scan gets past every loan** of the book. -/
def Scannable (t : DepositLoan.Store AccountId) (price : PriceInUSDT) : Prop :=
  ∀ loanId, t.loans.containsKey loanId = true → t.Passes price loanId

variable {t t' : DepositLoan.Store AccountId} {price btcPrice : PriceInUSDT}
  {loanId k : LoanId} {loan : Loan AccountId}

omit [DecidableEq AccountId] in
/-- A loan with the same figures passes, unless it has left the list. -/
theorem Passes.of_figures (h : t.Passes price k)
    (hlist : k ∈ t.inLiquidation → k ∈ t'.inLiquidation)
    (havail : (t'.loans.get k).collateralBalanceAvailable =
      (t.loans.get k).collateralBalanceAvailable)
    (htotal : (t'.loans.get k).loanBalanceTotal = (t.loans.get k).loanBalanceTotal) :
    t'.Passes price k := by
  rcases h with h | h
  · exact Or.inl (hlist h)
  · refine Or.inr ?_
    rw [havail, htotal]
    exact h

omit [DecidableEq AccountId] in
/-- Only the book and the list matter. -/
theorem Scannable.of_eq (h : t.Scannable price) (hb : t'.loans = t.loans)
    (hl : t'.inLiquidation = t.inLiquidation) : t'.Scannable price := by
  intro k hk
  rw [hb] at hk
  refine (h k hk).of_figures (fun hmem => hl ▸ hmem) ?_ ?_
  · rw [hb]
  · rw [hb]

omit [DecidableEq AccountId] in
/-- A loan may be written if the scan gets past it. -/
theorem Scannable.insert (h : t.Scannable price) (hb : t'.loans = t.loans.insert loanId loan)
    (hl : ∀ k ∈ t.inLiquidation, k ∈ t'.inLiquidation)
    (hloan : loanId ∈ t'.inLiquidation ∨
      HasRatio loan.collateralBalanceAvailable loan.loanBalanceTotal price) :
    t'.Scannable price := by
  intro k hk
  rcases eq_or_ne k loanId with rfl | hne
  · rw [Passes, hb, StorageMap.get_insert, if_pos rfl]
    exact hloan
  · rw [hb, StorageMap.containsKey_insert] at hk
    have hget : t'.loans.get k = t.loans.get k := by
      rw [hb, StorageMap.get_insert, if_neg hne]
    refine (h k (hk.resolve_left hne)).of_figures (hl k) ?_ ?_
    · rw [hget]
    · rw [hget]

omit [DecidableEq AccountId] in
/-- A loan may be deleted, with its id struck off the list or not. -/
theorem Scannable.remove (h : t.Scannable price) (hb : t'.loans = t.loans.remove loanId)
    (hl : ∀ k, k ≠ loanId → k ∈ t.inLiquidation → k ∈ t'.inLiquidation) :
    t'.Scannable price := by
  intro k hk
  rw [hb, StorageMap.containsKey_remove] at hk
  have hget : t'.loans.get k = t.loans.get k := by
    rw [hb, StorageMap.get_remove, if_neg hk.1]
  refine (h k hk.2).of_figures (hl k hk.1) ?_ ?_
  · rw [hget]
  · rw [hget]

/-! ### The turns of the scan -/

omit [DecidableEq AccountId] in
/-- A turn of the scan leaves the figures of all loans alone. -/
theorem Passes.scanned (h : t.Passes price k) (hkeys : t.KeysAreIds)
    (hfound : t.loans.containsKey loanId = true) (liquidation warning : LTV) :
    (t.scanned btcPrice liquidation warning loanId).Passes price k := by
  rcases t.scanned_cases btcPrice liquidation warning loanId with heq | ⟨-, ltv, heq | heq⟩
  · rw [heq]
    exact h
  · rw [heq, warned, hkeys.get hfound]
    refine h.of_figures id ?_ ?_
    all_goals
      simp only [StorageMap.get_mutate]
      split
      · rename_i hk
        rw [hk]
      · rfl
  · rw [heq, liquidating]
    refine h.of_figures (fun hmem => List.mem_append_left _ hmem) ?_ ?_
    all_goals
      simp only [StorageMap.get_mutate]
      split
      · rename_i hk
        rw [hk]
      · rfl

omit [DecidableEq AccountId] in
/-- The turn of one loan does not matter to the others. -/
theorem passes_scanned_iff (hkeys : t.KeysAreIds) (hfound : t.loans.containsKey loanId = true)
    (hne : loanId ≠ k) (liquidation warning : LTV) :
    (t.scanned btcPrice liquidation warning loanId).Passes price k ↔ t.Passes price k := by
  obtain ⟨hloans, hlist⟩ := scanned_of_ne btcPrice liquidation warning hkeys hfound hne
  rw [Passes, Passes, hlist, StorageMap.get, StorageMap.get, hloans]

end DepositLoan.Store

variable {s s' : RuntimeState AccountId} {height : BlockNumber}

/-- **The scan gets through** exactly if it gets past every loan. -/
theorem completes_onEachBlock (hkeys : s.saving.KeysAreIds) :
    (onEachBlock height : Prog .release AccountId Unit).Completes s ↔
      s.saving.Scannable s.btcPrice := by
  simp only [Completes, onEachBlock, wp_bind, wp_gets]
  have hturn : ∀ (t : RuntimeState AccountId) (loanId : LoanId),
      (scanLoan s.btcPrice s.saving.globalLiquidationThreshold s.saving.globalWarningThreshold
        loanId : Prog .release AccountId Unit).Completes t ↔ t.saving.Passes s.btcPrice loanId := by
    intro t loanId
    rw [Completes, wp_scanLoan, Store.checkLoanInLiquidation_iff, hasLtv_iff]
    exact ⟨fun h => not_not.mp h.1, fun h => ⟨fun hno => hno h, fun _ => trivial⟩⟩
  -- a loan is read when its turn comes, and passes then exactly if it passes at the start
  refine (completes_forEach_iff (fun t : RuntimeState AccountId =>
    t.Scanning s.saving.loans.keys ∧ ∀ k ∈ s.saving.loans.keys,
      (t.saving.Passes s.btcPrice k ↔ s.saving.Passes s.btcPrice k))
    (fun k => s.saving.Passes s.btcPrice k) ?_ ?_ ?_).trans ?_
  · rintro loanId hmem t ⟨hscan, hall⟩
    rw [wp_scanLoan]
    refine ⟨fun _ => trivial, fun hpass => ⟨hscan.scanned hmem _ _ _, fun k hk => ?_⟩⟩
    rw [Store.checkLoanInLiquidation_iff, hasLtv_iff] at hpass
    have hfound := hscan.found loanId hmem
    rcases eq_or_ne loanId k with rfl | hne
    · refine iff_of_true (Store.Passes.scanned hpass hscan.keysAreIds hfound _ _) ?_
      exact (hall loanId hmem).mp hpass
    · exact (Store.passes_scanned_iff hscan.keysAreIds hfound hne _ _).trans (hall k hk)
  · rintro loanId hmem t ⟨-, hall⟩
    exact (hturn t loanId).trans (hall loanId hmem)
  · exact ⟨⟨hkeys, fun _ h => StorageMap.containsKey_iff_mem.mpr h⟩, fun _ _ => Iff.rfl⟩
  · exact ⟨fun h k hk => h k (StorageMap.containsKey_iff_mem.mp hk),
      fun h k hk => h k (StorageMap.containsKey_iff_mem.mpr hk)⟩

/-! ### What a step has to keep -/

/-- The steps that can exchange the price of the collateral: the averaging of the prices, the
choice of another asset, and the creation of an asset with a symbol of its own. -/
def Step.movesPrice : Step AccountId → Bool
  | .extrinsic .root (.depositLoan (.setCollateralAssetId _)) => true
  | .extrinsic _ (.genericAsset (.create _ _)) => true
  | .onFinalize _ => true
  | _ => false

/-- **When a step keeps the ratios**: what it writes of the figures of a loan that is not in
liquidation, or of the price, leaves them a ratio. -/
def RuntimeState.KeepsRatios (s : RuntimeState AccountId) : Step AccountId → Prop
  | .extrinsic (.signed who) (.depositLoan (.applyLoan collateralAmount loanAmount)) =>
    s.saving.paused = false → s.CanApply .release who collateralAmount loanAmount →
      s.saving.nextLoanId ∈ s.saving.inLiquidation ∨
        HasRatio ((s.terms collateralAmount loanAmount).collateralAmount - loanAmount / s.price)
          (s.terms collateralAmount loanAmount).loanAmount s.btcPrice
  | .extrinsic (.signed who) (.depositLoan (.addCollateral loanId amount)) =>
    let loan := s.saving.loans.get loanId
    s.saving.paused = false → s.saving.loans.containsKey loanId = true → who = loan.who →
      amount ≤ s.assets.free s.saving.collectionAssetId who →
        loanId ∈ s.saving.inLiquidation ∨
          HasRatio (loan.collateralBalanceAvailable + amount) loan.loanBalanceTotal s.btcPrice
  | .extrinsic (.signed who) (.depositLoan (.draw loanId amount)) =>
    let loan := s.saving.loans.get loanId
    s.saving.paused = false → s.CanDraw who loanId amount →
      loanId ∈ s.saving.inLiquidation ∨
        HasRatio (loan.collateralBalanceAvailable - amount / s.drawPrice)
          (loan.loanBalanceTotal + amount) s.btcPrice
  | i => i.movesPrice = true → ∀ s', next i s = some s' → s.saving.Scannable s'.btcPrice

theorem RuntimeState.KeepsRatios.of_movesPrice {i : Step AccountId} (h : s.KeepsRatios i)
    (hi : i.movesPrice = true) (hnext : next i s = some s') : s.saving.Scannable s'.btcPrice := by
  unfold RuntimeState.KeepsRatios at h
  split at h
  · cases hi
  · cases hi
  · cases hi
  · exact h hi s' hnext

/-! ### The price -/

/-- Of the calls of the ledger only the creation of an asset writes a symbol. -/
theorem GenericAsset.dispatch_symbols {β : Build}
    {ledger : GenericAsset.Store AccountId} (key : AccountId) (origin : Origin AccountId)
    {call : GenericAsset.Call AccountId}
    (hcall : ∀ issuance symbol, call ≠ .create issuance symbol) :
    wp (GenericAsset.dispatch key origin call : GenericAsset.Prog β AccountId Unit)
      (fun _ t => t.symbols = ledger.symbols) (fun _ t => t.symbols = ledger.symbols) True
      ledger := by
  cases call with
  | create issuance symbol => exact (hcall issuance symbol rfl).elim
  | transfer assetId toAccount amount =>
    simp only [GenericAsset.dispatch, GenericAsset.transfer, GenericAsset.makeTransferWithEvent,
      wp_bind, wp_ensureSigned, wp_ensure, GenericAsset.wp_makeTransfer,
      GenericAsset.Store.moved_symbols, imp_true_iff, and_self]
  | updatePermission assetId newPermission =>
    simp only [GenericAsset.dispatch, GenericAsset.updatePermission, wp_bind, wp_ensureSigned,
      wp_gets, wp_ensure, wp_modify, imp_true_iff, and_self]
  | mint assetId toAccount amount =>
    simp only [GenericAsset.dispatch, GenericAsset.mint, GenericAsset.mintFree, wp_bind,
      wp_ensureSigned, wp_gets, wp_ensure, wp_okOr_checkedAdd, wp_modify,
      GenericAsset.Store.setFree, imp_true_iff, and_self]
  | burn assetId toAccount amount =>
    simp only [GenericAsset.dispatch, GenericAsset.burn, GenericAsset.burnFree, wp_bind,
      wp_ensureSigned, wp_gets, wp_ensure, wp_okOr_checkedSub, wp_modify,
      GenericAsset.Store.setFree, imp_true_iff, and_self]
  | createReserved assetId options =>
    simp only [GenericAsset.dispatch, GenericAsset.createReserved, wp_bind, wp_ensureRoot,
      imp_true_iff, and_true]
    intro _
    refine wp_mono (GenericAsset.createAsset_effect
      (E := fun _ t => t.symbols = ledger.symbols) ?_ fun _ => rfl)
      (fun _ _ h => h) (fun _ _ h => h) False.elim
    intro _ _ _ _ _ _ _ _
    rfl

omit [DecidableEq AccountId] [Inhabited AccountId] in
/-- The calls of the oracle leave the prices alone. -/
theorem NewOracle.dispatch_currentPrice {β : Build} {t : NewOracle.Store}
    (origin : Origin AccountId) (call : NewOracle.Call) :
    wp (NewOracle.dispatch origin call : NewOracle.Prog β Unit)
      (fun _ t' => t'.currentPrice = t.currentPrice) (fun _ t' => t'.currentPrice = t.currentPrice)
      False t := by
  cases call with
  | addSource token sourceName sourceUrl jsonPath =>
    simp only [NewOracle.dispatch, addSource, wp_bind, wp_ensureRoot, wp_gets, wp_ite, wp_modify,
      imp_true_iff, and_self]
  | stackPriceUnsigned blockNumber token price =>
    simp only [NewOracle.dispatch, stackPriceUnsigned, stackPrice, wp_bind, wp_ensureNone,
      wp_modify, imp_true_iff, and_self]
  | stackPriceSigned blockNumber token price =>
    simp only [NewOracle.dispatch, stackPriceSigned, wp_bind, wp_ensureSigned, wp_pure,
      imp_true_iff, and_self]

/-- Only the averaging of the prices writes them. -/
theorem currentPrice_of_next {i : Step AccountId} (hnext : next i s = some s')
    (hfinal : ∀ height, i ≠ .onFinalize height) :
    s'.oracle.currentPrice = s.oracle.currentPrice := by
  obtain ⟨ok, heff⟩ := next_effect hnext
  by_cases hcall : ∃ origin call, i = .extrinsic origin (.newOracle call)
  · obtain ⟨origin, call, rfl⟩ := hcall
    refine next_of_total (R := fun t => t.oracle.currentPrice = s.oracle.currentPrice) hnext ?_
    simp only [Step.exec, MoneyPool.dispatch, wp_zoom]
    exact NewOracle.dispatch_currentPrice origin call
  · rw [heff.oracle (fun origin call hi => hcall ⟨origin, call, hi⟩) hfinal]

omit [Inhabited AccountId] in
/-- A redeem leaves the symbols alone. -/
theorem RuntimeState.Redeemed.symbols {who : AccountId} {assetId : AssetId} {amount : Balance}
    (h : s.Redeemed who assetId amount s') : s'.assets.symbols = s.assets.symbols := by
  have hpaid : (s.paidOut who).assets.symbols = s.assets.symbols := by
    unfold RuntimeState.paidOut
    split
    · exact GenericAsset.Store.moved_symbols ..
    · rfl
  cases h with
  | restaked => exact (GenericAsset.Store.moved_symbols ..).trans hpaid
  | kept => exact hpaid

omit [Inhabited AccountId] in
/-- A reverted repayment leaves the symbols alone. -/
theorem RuntimeState.Returned.symbols {who : AccountId} {loan : Loan AccountId}
    {assets : GenericAsset.Store AccountId} (h : s.Returned who loan assets) :
    assets.symbols = s.assets.symbols := by
  cases h with
  | back => simp only [paidBack, GenericAsset.Store.moved_symbols]
  | kept => simp only [paidBack, GenericAsset.Store.moved_symbols]

omit [Inhabited AccountId] in
/-- A liquidation leaves the symbols alone. -/
theorem RuntimeState.settled_symbols {loan : Loan AccountId} {who : AccountId}
    {auctionBalance : Balance} :
    (s.settled loan who auctionBalance).symbols = s.assets.symbols := by
  unfold RuntimeState.settled
  split
  · simp only [sharedOut, penalized, sold, paidBack, GenericAsset.Store.moved_symbols]
  · simp only [sold, paidBack, GenericAsset.Store.moved_symbols]

omit [Inhabited AccountId] in
/-- So does one that fails. -/
theorem RuntimeState.NotShared.symbols {loan : Loan AccountId} {who : AccountId}
    {leftover : Balance} {assets : GenericAsset.Store AccountId}
    (h : (s.sold loan who).NotShared loan who leftover assets) :
    assets.symbols = s.assets.symbols := by
  cases h <;> simp only [penaltyBack, penalized, sold, paidBack, GenericAsset.Store.moved_symbols]

/-- A step of a hook leaves the symbol of the collateral alone. -/
theorem RuntimeState.HookStep.symbol (h : s.HookStep s') :
    s'.assets.symbols.get s'.saving.collateralAssetId =
      s.assets.symbols.get s.saving.collateralAssetId := by
  cases h with
  | charged => rw [GenericAsset.Store.moved_symbols]
  | _ => rfl

/-- **The price of the collateral** is left alone by all steps that cannot exchange it. -/
theorem Effect.btcPrice {i : Step AccountId} {ok : Bool} (h : Effect s i ok s')
    (hnext : next i s = some s') (hi : i.movesPrice = false) : s'.btcPrice = s.btcPrice := by
  have hprices : s'.oracle.currentPrice = s.oracle.currentPrice := by
    refine currentPrice_of_next hnext ?_
    rintro height rfl
    cases hi
  suffices hsymbol : s'.assets.symbols.get s'.saving.collateralAssetId =
      s.assets.symbols.get s.saving.collateralAssetId by
    rw [RuntimeState.btcPrice, RuntimeState.btcPrice, hprices, hsymbol]
  cases h with
  | ledgerCall origin call assets hx =>
    have hcall : ∀ issuance symbol, call ≠ .create issuance symbol := by
      rintro issuance symbol rfl
      cases origin <;> cases hi
    have hsame := (wp_of_ok hx).mp (GenericAsset.dispatch_symbols s.sudoKey origin hcall)
    exact congrArg (fun m => StorageMap.get m s.saving.collateralAssetId) hsame
  | ledgerFailed origin call assets e hx =>
    have hcall : ∀ issuance symbol, call ≠ .create issuance symbol := by
      rintro issuance symbol rfl
      cases origin <;> cases hi
    have hsame := (wp_of_err hx).mp (GenericAsset.dispatch_symbols s.sudoKey origin hcall)
    exact congrArg (fun m => StorageMap.get m s.saving.collateralAssetId) hsame
  | aggregated => cases hi
  | set call f hf =>
    cases call <;> cases hf <;> first | rfl | cases hi
  | redeemed who assetId amount _ _ _ hred =>
    obtain ⟨u, m, d, heq⟩ := hred.saving_eq
    rw [hred.symbols, heq]
  | repayReverted who loanId assets _ _ _ ha =>
    exact congrArg (fun m => StorageMap.get m s.saving.collateralAssetId) ha.symbols
  | liquidated who loanId auctionBalance =>
    exact congrArg (fun m => StorageMap.get m s.saving.collateralAssetId) settled_symbols
  | notLiquidated who loanId auctionBalance assets _ _ _ _ _ ha =>
    exact congrArg (fun m => StorageMap.get m s.saving.collateralAssetId) ha.symbols
  | hook height hsteps =>
    clear hnext hi hprices
    induction hsteps with
    | refl => rfl
    | tail _ hstep ih => exact hstep.symbol.trans ih
  | staked => simp only [RuntimeState.staked, GenericAsset.Store.moved_symbols]
  | granted => simp only [withLoan, collateralTaken, GenericAsset.Store.moved_symbols]
  | taken => simp only [collateralTaken, GenericAsset.Store.moved_symbols]
  | repaid => simp only [RuntimeState.repaid, paidBack, GenericAsset.Store.moved_symbols]
  | collateralAdded =>
    simp only [RuntimeState.collateralAdded, GenericAsset.Store.moved_symbols]
  | _ => rfl

/-! ### Steps -/

/-- A step of a hook writes no figures. -/
theorem RuntimeState.HookStep.scannable {price : PriceInUSDT} (h : s.HookStep s')
    (hkeys : s.saving.KeysAreIds) (hscan : s.saving.Scannable price) :
    s'.saving.Scannable price := by
  cases h with
  | warned loanId ltv hfound =>
    exact hscan.insert (hkeys.warned_loans hfound ltv) (fun _ hk => hk) (hscan loanId hfound)
  | liquidating loanId ltv hfound =>
    refine hscan.insert rfl (fun k hk => List.mem_append_left _ hk) (Or.inl ?_)
    exact List.mem_append_right _ (List.mem_singleton_self loanId)
  | charged => exact hscan
  | accrued => exact hscan.of_eq rfl rfl

/-- **The scan gets past every loan** after every step that keeps the ratios. -/
theorem Effect.scannable {i : Step AccountId} {ok : Bool} (h : Effect s i ok s')
    (hnext : next i s = some s') (hkeys : s.saving.KeysAreIds)
    (hscan : s.saving.Scannable s.btcPrice) (hi : s.KeepsRatios i) :
    s'.saving.Scannable s'.btcPrice := by
  -- the book is measured at the price after the step, which only some steps move
  have hbefore : s.saving.Scannable s'.btcPrice := by
    rcases hmoves : i.movesPrice with _ | _
    · rw [h.btcPrice hnext hmoves]
      exact hscan
    · exact hi.of_movesPrice hmoves hnext
  have hprice : i.movesPrice = false → s'.btcPrice = s.btcPrice := h.btcPrice hnext
  cases h with
  | set call f hf => exact hbefore.of_eq (setting_loans hf) (setting_inLiquidation hf)
  | staked => exact hbefore.of_eq rfl rfl
  | redeemed who assetId amount hi hopen hcan hred =>
    obtain ⟨u, m, d, heq⟩ := hred.saving_eq
    exact hbefore.of_eq (by rw [heq]) (by rw [heq]; rfl)
  | granted who collateralAmount loanAmount hopen hcan =>
    refine hbefore.insert rfl (fun _ hk => hk) ?_
    rw [hprice rfl]
    exact hi hopen hcan
  | taken => exact hbefore.of_eq rfl rfl
  | repaid => exact hbefore.remove rfl fun _ _ hk => hk
  | repayReverted who loanId assets hopen htry =>
    refine hbefore.of_eq ?_ rfl
    have hget := StorageMap.get?_of_containsKey htry.found
    rw [RuntimeState.repayReverted, hkeys.get htry.found, StorageMap.insert_of_get? hget]
  | liquidated =>
    refine hbefore.remove rfl fun k hne hk => ?_
    exact List.mem_filter.mpr ⟨hk, decide_eq_true hne⟩
  | collateralAdded who loanId amount hopen hfound howner hcov =>
    have hid := hkeys.get hfound
    refine hbefore.insert rfl (fun _ hk => hk) ?_
    rw [hprice rfl, hid]
    exact hi hopen hfound howner hcov
  | drawn who loanId amount hopen hcan =>
    refine hbefore.insert rfl (fun _ hk => hk) ?_
    rw [hprice rfl]
    exact hi hopen hcan
  | hook height hsteps =>
    suffices hboth : s'.saving.KeysAreIds ∧ s'.saving.Scannable s'.btcPrice from hboth.2
    clear hnext hi hscan hprice
    -- the hook leaves the price alone, and the scan needs the keys of the book
    generalize s'.btcPrice = price at hbefore ⊢
    induction hsteps with
    | refl => exact ⟨hkeys, hbefore⟩
    | tail _ hstep ih => exact ⟨hstep.keysAreIds ih.1, hstep.scannable ih.1 ih.2⟩
  | _ => exact hbefore

/-! ### Runs -/

/-- **The liquidation scan gets through** in every state that is reached by steps that keep the
ratios, and computes the LTV of every loan that is not in liquidation. -/
theorem scan_completes {config : GenesisConfig AccountId} {s₀ : RuntimeState AccountId}
    (hgenesis : config.build = some s₀)
    (hreach : Reach next (fun s i => s.KeepsRatios i) s₀ s) (height : BlockNumber) :
    (∃ s', (onEachBlock height : Prog .release AccountId Unit) s = .ok () s') ∧
    ∀ loanId loan, s.saving.loans.get? loanId = some loan → loanId ∉ s.saving.inLiquidation →
      ∃ ltv, (getLtv loan.collateralBalanceAvailable loan.loanBalanceTotal s.btcPrice :
        Prog .release AccountId LTV) s = .ok ltv s := by
  have hkeys := keysAreIds_of_reach hgenesis hreach
  have hscan : s.saving.Scannable s.btcPrice := by
    refine invariant_of_reach (I := fun s => s.saving.Scannable s.btcPrice) hgenesis hreach ?_ ?_
    · rw [config.saving_of_build hgenesis]
      exact fun _ h => nomatch h
    · intro s i ok s' heff hnext hkeys hi hscan
      exact heff.scannable hnext hkeys hscan hi
  constructor
  · have hdone : (onEachBlock height : Prog .release AccountId Unit).Completes s :=
      (completes_onEachBlock hkeys).mpr hscan
    obtain ⟨_, s', hx, -⟩ := exists_ok_of_wp (wp_mono (wp_and hdone onEachBlock_spec)
      (fun _ _ h => h.2) (fun _ _ h => h.2) And.left)
    exact ⟨s', hx⟩
  · intro loanId loan hget hcalm
    have hpass := (hscan loanId (StorageMap.containsKey_iff_exists.mpr ⟨loan, hget⟩)).resolve_left
      hcalm
    rw [StorageMap.get_of_get? hget] at hpass
    exact ⟨_, getLtv_ok (hasLtv_iff.mpr hpass)⟩

end Book

theorem scan_completes_example : ∃ s, next (signedCall 5 (.applyLoan 3 100)) exampleState = some s ∧
    s.saving.loans.containsKey 0 = true ∧
    ∃ s', (onEachBlock 1 : Prog .release ℕ Unit) s = .ok () s' := by
  obtain ⟨s, hnext, hloan⟩ := exists_of_any (p := fun s => s.saving.loans.containsKey 0 = true)
    (o := next (signedCall 5 (.applyLoan 3 100)) exampleState) (by decide +kernel)
  have hkeeps : exampleState.KeepsRatios (signedCall 5 (.applyLoan 3 100)) :=
    fun _ _ => Or.inr ⟨by decide +kernel, by decide +kernel⟩
  exact ⟨s, hnext, hloan,
    (scan_completes exampleConfig_build (Reach.refl.tail hkeeps hnext) 1).1⟩

/-- The genesis state of a testnet. -/
def testnetState : RuntimeState ℕ := (testnetGenesis exampleAccounts).build.get (by decide +kernel)

/-- A report of the price of the collateral that nobody has signed. -/
def btcReport (number : BlockNumber) (price : PriceInUSDT) : Origin ℕ × Call ℕ :=
  (.none, .newOracle (.stackPriceUnsigned number btc price))

/-- Ten blocks of a testnet. In the first the administrator mints some of both assets and a
price is reported, which holds from the sixth on, where a loan is granted. In the last block a
price of zero is reported. -/
def zeroPriceBlocks : List (Block ℕ) :=
  [⟨1, 6, [(.signed 9, .genericAsset (.mint 0 1 1000)), (.signed 9, .genericAsset (.mint 1 5 3)),
      btcReport 1 100]⟩,
    ⟨2, 12, []⟩, ⟨3, 18, []⟩, ⟨4, 24, []⟩, ⟨5, 30, []⟩,
    ⟨6, 36, [(.signed 5, .depositLoan (.applyLoan 3 100))]⟩,
    ⟨7, 42, []⟩, ⟨8, 48, []⟩, ⟨9, 54, []⟩, ⟨10, 60, [btcReport 10 0]⟩]

/-- Anybody may report a price of zero, and the next scan panics. -/
theorem scan_panics : ¬∀ s, Reachable next testnetState s → ∀ height,
    ∃ s', (onEachBlock height : Prog .release ℕ Unit) s = .ok () s' := by
  intro h
  obtain ⟨s, hrun, hpanic⟩ := exists_of_any
    (p := fun s => ((onEachBlock 11 : Prog .release ℕ Unit) s).okState.isNone = true)
    (o := run next (zeroPriceBlocks.flatMap Block.steps) testnetState) (by decide +kernel)
  obtain ⟨s', hs'⟩ := h s (reachable_of_run hrun) 11
  rw [hs'] at hpanic
  cases hpanic

end MoneyPool
