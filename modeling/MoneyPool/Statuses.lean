import MoneyPool.Prices
import MoneyPool.Thresholds

/-!
# The statuses of the loans

The scan writes down the health of every loan that is not in liquidation – unless the loan is well,
in which case it writes nothing. So a loan that has been warned about and has recovered since keeps
its warning. `MoneyPool.statuses_match_iff` says that this is all that can be wrong after a scan.
It rests on an invariant of all runs (`MoneyPool.DepositLoan.Store.MarksListed`): a loan that is
marked as liquidating is on the list, and is not looked at.
-/

namespace MoneyPool

open Pallet Pallet.Exec DepositLoan RuntimeState

variable {AccountId : Type} [DecidableEq AccountId] [Inhabited AccountId]

/-! ### What is marked is listed -/

/-- **Every loan that is marked as liquidating is on the list.** -/
def DepositLoan.Store.MarksListed (t : DepositLoan.Store AccountId) : Prop :=
  ∀ loanId loan, t.loans.get? loanId = some loan → loan.status.isLiquidating = true →
    loanId ∈ t.inLiquidation

namespace DepositLoan.Store.MarksListed

variable {t t' : DepositLoan.Store AccountId} {loanId : LoanId} {loan loan' : Loan AccountId}

omit [DecidableEq AccountId] [Inhabited AccountId] in
theorem of_eq (h : t.MarksListed) (hb : t'.loans = t.loans)
    (hl : t'.inLiquidation = t.inLiquidation) : t'.MarksListed := by
  intro k loan hget hst
  rw [hb] at hget
  exact hl ▸ h k loan hget hst

omit [DecidableEq AccountId] [Inhabited AccountId] in
/-- A loan may be written if it is on the list, or is not marked. -/
theorem insert (h : t.MarksListed) (hb : t'.loans = t.loans.insert loanId loan)
    (hl : ∀ k ∈ t.inLiquidation, k ∈ t'.inLiquidation)
    (hst : loan.status.isLiquidating = true → loanId ∈ t'.inLiquidation) : t'.MarksListed := by
  intro k v hget hmark
  rw [hb, StorageMap.get?_insert] at hget
  split at hget
  · rename_i hk
    cases hget
    exact hk ▸ hst hmark
  · exact hl k (h k v hget hmark)

omit [DecidableEq AccountId] [Inhabited AccountId] in
/-- A loan may be rewritten without touching its status. -/
theorem change (h : t.MarksListed) (hold : t.loans.get? loanId = some loan)
    (hb : t'.loans = t.loans.insert loanId loan') (hl : t'.inLiquidation = t.inLiquidation)
    (hst : loan'.status = loan.status) : t'.MarksListed := by
  refine h.insert hb (fun k hk => hl ▸ hk) fun hmark => ?_
  rw [hl]
  exact h loanId loan hold (hst ▸ hmark)

omit [DecidableEq AccountId] [Inhabited AccountId] in
/-- A loan may be deleted, with its id struck off the list or not. -/
theorem remove (h : t.MarksListed) (hb : t'.loans = t.loans.remove loanId)
    (hl : ∀ k, k ≠ loanId → k ∈ t.inLiquidation → k ∈ t'.inLiquidation) : t'.MarksListed := by
  intro k v hget hmark
  rw [hb, StorageMap.get?_remove] at hget
  split at hget
  · cases hget
  · rename_i hk
    exact hl k hk (h k v hget hmark)

end DepositLoan.Store.MarksListed

variable {s s' s₀ : RuntimeState AccountId} {i : Step AccountId} {ok : Bool}

theorem RuntimeState.HookStep.marksListed (h : s.HookStep s') (hkeys : s.saving.KeysAreIds)
    (hmarks : s.saving.MarksListed) : s'.saving.MarksListed := by
  cases h with
  | warned loanId ltv hfound =>
    exact hmarks.insert (hkeys.warned_loans hfound ltv) (fun _ hk => hk)
      fun hmark => (Bool.false_ne_true hmark).elim
  | liquidating loanId ltv =>
    exact hmarks.insert rfl (fun _ hk => List.mem_append.mpr (Or.inl hk))
      fun _ => List.mem_append.mpr (Or.inr (List.mem_singleton_self loanId))
  | charged => exact hmarks
  | accrued => exact hmarks.of_eq rfl rfl

/-- **What is marked is listed** after every step. -/
theorem Effect.marksListed (h : Effect s i ok s') (hkeys : s.saving.KeysAreIds)
    (hmarks : s.saving.MarksListed) : s'.saving.MarksListed := by
  cases h with
  | unchanged => exact hmarks
  | timed => exact hmarks
  | oracleCall => exact hmarks
  | aggregated => exact hmarks
  | ledgerCall => exact hmarks
  | ledgerFailed => exact hmarks
  | set call f hf => exact hmarks.of_eq (setting_loans hf) (setting_inLiquidation hf)
  | staked => exact hmarks.of_eq rfl rfl
  | redeemed who assetId amount hi hopen hcan hred =>
    obtain ⟨u, m, d, heq⟩ := hred.saving_eq
    exact hmarks.of_eq (by rw [heq]) (by rw [heq]; rfl)
  | granted who collateralAmount loanAmount hopen hcan =>
    exact hmarks.insert rfl (fun _ hk => hk) fun hmark => (Bool.false_ne_true hmark).elim
  | taken => exact hmarks.of_eq rfl rfl
  | repaid who loanId hopen htry hret => exact hmarks.remove rfl fun _ _ hk => hk
  | repayReverted who loanId assets hopen htry =>
    refine hmarks.of_eq ?_ rfl
    rw [RuntimeState.repayReverted, hkeys.get htry.found,
      StorageMap.insert_of_get? (StorageMap.get?_of_containsKey htry.found)]
  | liquidated =>
    exact hmarks.remove rfl fun k hne hk => List.mem_filter.mpr ⟨hk, decide_eq_true hne⟩
  | notLiquidated => exact hmarks
  | collateralAdded who loanId amount hopen hfound =>
    have hget := StorageMap.get?_of_containsKey hfound
    rw [← hkeys.get hfound] at hget
    refine hmarks.change hget rfl rfl ?_
    rw [hkeys.get hfound]
  | drawn who loanId amount hopen hcan =>
    exact hmarks.change (StorageMap.get?_of_containsKey hcan.found) rfl rfl rfl
  | hook height hsteps =>
    -- the ids stay keys along the steps of the hook
    suffices hboth : s'.saving.KeysAreIds ∧ s'.saving.MarksListed from hboth.2
    induction hsteps with
    | refl => exact ⟨hkeys, hmarks⟩
    | tail _ hstep ih => exact ⟨hstep.keysAreIds ih.1, hstep.marksListed ih.1 ih.2⟩

/-- What is marked is listed in every reached state. -/
theorem marksListed_of_reach {config : GenesisConfig AccountId} (hgenesis : config.build = some s₀)
    (hreach : Reachable next s₀ s) : s.saving.MarksListed := by
  refine invariant_of_reach (I := fun s => s.saving.MarksListed) hgenesis hreach ?_ ?_
  · rw [config.saving_of_build hgenesis]
    exact fun _ _ h => (Option.some_ne_none _ h.symm).elim
  · intro s i ok s' heff _ hkeys _ hmarks
    exact heff.marksListed hkeys hmarks

/-! ### What the scan does to a loan -/

/-- **What the scan makes of a loan** that is not in liquidation. A loan that is well stays as it
is. -/
def DepositLoan.Loan.checked (loan : Loan AccountId) (btcPrice : PriceInUSDT)
    (liquidation warning : LTV) : Loan AccountId :=
  match loan.health btcPrice liquidation warning with
  | .well => loan
  | health => { loan with status := health }

omit [DecidableEq AccountId] [Inhabited AccountId] in
/-- Only the status of a loan is written. -/
theorem DepositLoan.Loan.checked_eq (loan : Loan AccountId) (btcPrice : PriceInUSDT)
    (liquidation warning : LTV) : loan.checked btcPrice liquidation warning =
      { loan with status := (loan.checked btcPrice liquidation warning).status } := by
  unfold Loan.checked
  split
  · rfl
  · rfl

omit [DecidableEq AccountId] [Inhabited AccountId] in
theorem DepositLoan.Loan.health_checked (loan : Loan AccountId) (btcPrice : PriceInUSDT)
    (liquidation warning : LTV) :
    (loan.checked btcPrice liquidation warning).health btcPrice liquidation warning =
      loan.health btcPrice liquidation warning := by
  rw [Loan.checked_eq]
  rfl

omit [DecidableEq AccountId] [Inhabited AccountId] in
theorem DepositLoan.Loan.HasLtv.checked {β : Build} {loan : Loan AccountId} {btcPrice : PriceInUSDT}
    (h : loan.HasLtv β btcPrice) (liquidation warning : LTV) :
    (loan.checked btcPrice liquidation warning).HasLtv β btcPrice := by
  rw [Loan.checked_eq]
  exact ⟨h.divisor, h.fits, h.products⟩

section Turn

variable {t : DepositLoan.Store AccountId} {btcPrice : PriceInUSDT} {liquidation warning : LTV}
  {loanId : LoanId} {loan : Loan AccountId}

omit [DecidableEq AccountId] in
/-- The turn of a loan in liquidation. -/
theorem DepositLoan.Store.scanned_listed (hlisted : loanId ∈ t.inLiquidation) :
    t.scanned btcPrice liquidation warning loanId = t :=
  if_pos (checkLoanInLiquidation_iff.mpr hlisted)

omit [DecidableEq AccountId] in
/-- **The turn of a loan** that is not in liquidation, under its id. -/
theorem DepositLoan.Store.scanned_checked (hget : t.loans.get? loanId = some loan)
    (hid : loan.id = loanId) (hcalm : loanId ∉ t.inLiquidation) :
    (t.scanned btcPrice liquidation warning loanId).loans.get? loanId =
        some (loan.checked btcPrice liquidation warning) ∧
      (loanId ∈ (t.scanned btcPrice liquidation warning loanId).inLiquidation ↔
        (loan.health btcPrice liquidation warning).isLiquidating = true) := by
  have hnot : ¬t.checkLoanInLiquidation loanId = true := fun h =>
    hcalm (checkLoanInLiquidation_iff.mp h)
  rw [scanned, if_neg hnot, StorageMap.get_of_get? hget, Loan.checked]
  cases loan.health btcPrice liquidation warning with
  | well => exact ⟨hget, iff_of_false hcalm Bool.false_ne_true⟩
  | warning ltv =>
    refine ⟨?_, iff_of_false ?_ Bool.false_ne_true⟩
    · by_cases hst : loan.status = .warning ltv
      · -- the warning is there already
        simp only [hst, ne_eq, not_true_eq_false, if_false, hget]
        rw [← hst]
      · simp only [ne_eq, hst, not_false_eq_true, if_true, warned, hid, StorageMap.get?_mutate,
          StorageMap.get_of_get? hget]
    · dsimp only
      split
      · exact hcalm
      · exact hcalm
  | liquidating ltv =>
    refine ⟨?_, iff_of_true ?_ rfl⟩
    · simp only [liquidating, StorageMap.get?_mutate, if_true, StorageMap.get_of_get? hget]
    · exact List.mem_append.mpr (Or.inr (List.mem_singleton_self loanId))

end Turn

section Hook

variable {β : Build} {loanId : LoanId} {loan : Loan AccountId} {height : BlockNumber}

/-- **The scan looks at every loan** that is not in liquidation, once. -/
theorem onEachBlock_checks (hkeys : s.saving.KeysAreIds)
    (hget : s.saving.loans.get? loanId = some loan) (hcalm : loanId ∉ s.saving.inLiquidation) :
    wp (onEachBlock height : Prog β AccountId Unit)
      (fun _ s' => loan.HasLtv β s.btcPrice ∧
        s'.saving.loans.get? loanId = some (loan.checked s.btcPrice
          s.saving.globalLiquidationThreshold s.saving.globalWarningThreshold) ∧
        (loanId ∈ s'.saving.inLiquidation ↔
          (loan.health s.btcPrice s.saving.globalLiquidationThreshold
            s.saving.globalWarningThreshold).isLiquidating = true))
      (fun _ _ => False) True s := by
  simp only [onEachBlock, wp_bind, wp_gets]
  have hid : loan.id = loanId := hkeys loanId loan hget
  have hmem : loanId ∈ s.saving.loans.keys :=
    StorageMap.containsKey_iff_mem.mp (StorageMap.containsKey_iff_exists.mpr ⟨loan, hget⟩)
  have hstart : s.Scanning s.saving.loans.keys :=
    ⟨hkeys, fun _ h => StorageMap.containsKey_iff_mem.mpr h⟩
  -- until its turn comes the loan stays as it is, and afterwards as it has been checked
  refine wp_mono (wp_forEach_turn
    (fun t => t.Scanning s.saving.loans.keys ∧ t.saving.loans.get? loanId = some loan ∧
      loanId ∉ t.saving.inLiquidation)
    (fun t => t.Scanning s.saving.loans.keys ∧ loan.HasLtv β s.btcPrice ∧
      t.saving.loans.get? loanId = some (loan.checked s.btcPrice
        s.saving.globalLiquidationThreshold s.saving.globalWarningThreshold) ∧
      (loanId ∈ t.saving.inLiquidation ↔ (loan.health s.btcPrice
        s.saving.globalLiquidationThreshold s.saving.globalWarningThreshold).isLiquidating = true))
    s.saving.loans.nodup hmem ?_ ?_ ?_ ⟨hstart, hget, hcalm⟩) (fun _ _ h => h.2)
    (fun _ _ h => h) id
  · rintro j hj hne t ⟨hscan, htget, htcalm⟩
    rw [wp_scanLoan]
    obtain ⟨hloans, hlist⟩ := Store.scanned_of_ne s.btcPrice s.saving.globalLiquidationThreshold
      s.saving.globalWarningThreshold hscan.keysAreIds (hscan.found j hj) hne
    exact ⟨fun _ => trivial, fun _ => ⟨hscan.scanned hj _ _ _, hloans.trans htget,
      fun h => htcalm (hlist.mp h)⟩⟩
  · rintro t ⟨hscan, htget, htcalm⟩
    rw [wp_scanLoan, Store.checkLoanInLiquidation_iff, StorageMap.get_of_get? htget]
    refine ⟨fun _ => trivial, fun hpass => ⟨hscan.scanned hmem _ _ _, ?_⟩⟩
    exact ⟨hpass.resolve_left htcalm, Store.scanned_checked htget hid htcalm⟩
  · rintro j hj hne t ⟨hscan, hltv, htget, hiff⟩
    rw [wp_scanLoan]
    obtain ⟨hloans, hlist⟩ := Store.scanned_of_ne s.btcPrice s.saving.globalLiquidationThreshold
      s.saving.globalWarningThreshold hscan.keysAreIds (hscan.found j hj) hne
    exact ⟨fun _ => trivial, fun _ => ⟨hscan.scanned hj _ _ _, hltv, hloans.trans htget,
      hlist.trans hiff⟩⟩

/-- **The scan leaves alone** the loans in liquidation, and makes no new ones. -/
theorem onEachBlock_keeps (hkeys : s.saving.KeysAreIds)
    (h : loanId ∈ s.saving.inLiquidation ∨ s.saving.loans.get? loanId = none) :
    wp (onEachBlock height : Prog β AccountId Unit)
      (fun _ s' => s'.saving.loans.get? loanId = s.saving.loans.get? loanId)
      (fun _ _ => False) True s := by
  simp only [onEachBlock, wp_bind, wp_gets]
  refine wp_mono (wp_forEach (fun t => t.Scanning s.saving.loans.keys ∧
    (loanId ∈ t.saving.inLiquidation ∨ t.saving.loans.get? loanId = none) ∧
      t.saving.loans.get? loanId = s.saving.loans.get? loanId) ?_
    ⟨⟨hkeys, fun _ h => StorageMap.containsKey_iff_mem.mpr h⟩, h, rfl⟩) (fun _ _ h => h.2.2)
    (fun _ _ h => h) id
  rintro j hj t ⟨hscan, hkept, hsame⟩
  rw [wp_scanLoan]
  refine ⟨fun _ => trivial, fun _ => ⟨hscan.scanned hj _ _ _, ?_⟩⟩
  have hfound := hscan.found j hj
  rcases eq_or_ne j loanId with rfl | hne
  · -- a loan that has a turn is there, and in liquidation
    obtain ⟨v, hv⟩ := StorageMap.containsKey_iff_exists.mp hfound
    have hlisted := hkept.resolve_right fun hnone => by cases hv.symm.trans hnone
    rw [withSaving, Store.scanned_listed hlisted]
    exact ⟨Or.inl hlisted, hsame⟩
  · obtain ⟨hloans, hlist⟩ := Store.scanned_of_ne s.btcPrice s.saving.globalLiquidationThreshold
      s.saving.globalWarningThreshold hscan.keysAreIds hfound hne
    rw [hloans, hlist]
    exact ⟨hkept, hsame⟩

end Hook

/-! ### The statuses after a scan -/

variable (β : Build) in
/-- **The statuses match** after a scan from `s` to `s'`: that of every loan that is not in
liquidation is what `check_loan_health` returns for it, the loans that were in liquidation before
are as they were, and of the others nothing but the status has changed. -/
structure RuntimeState.StatusesMatch (s s' : RuntimeState AccountId) : Prop where
  matched : ∀ loanId loan, s'.saving.loans.get? loanId = some loan →
    loanId ∉ s'.saving.inLiquidation →
      (checkLoanHealth loan s.btcPrice s.saving.globalLiquidationThreshold
        s.saving.globalWarningThreshold : Prog β AccountId LoanHealth) s' = .ok loan.status s'
  frozen : ∀ loanId ∈ s.saving.inLiquidation,
    s'.saving.loans.get? loanId = s.saving.loans.get? loanId
  figures : ∀ loanId, (s'.saving.loans.get? loanId).map (fun v => { v with status := .well }) =
    (s.saving.loans.get? loanId).map fun v => { v with status := .well }

omit [DecidableEq AccountId] [Inhabited AccountId] in
/-- What `check_loan_health` returns, where it does. -/
theorem checkLoanHealth_ok {β : Build} {loan : Loan AccountId} {btcPrice : PriceInUSDT}
    {liquidation warning : LTV} (h : loan.HasLtv β btcPrice) :
    (checkLoanHealth loan btcPrice liquidation warning : Prog β AccountId LoanHealth) s =
      .ok (loan.health btcPrice liquidation warning) s := by
  obtain ⟨_, _, hrun, rfl, rfl⟩ := exists_ok_of_wp (Q := fun health t =>
    health = loan.health btcPrice liquidation warning ∧ t = s)
    (wp_checkLoanHealth.mpr ⟨fun hno => hno h, fun _ => ⟨rfl, rfl⟩⟩)
  exact hrun

section Scan

variable {β : Build} {height : BlockNumber} (hkeys : s.saving.KeysAreIds)
  (hscan : (onEachBlock height : Prog β AccountId Unit) s = .ok () s')

include hkeys hscan

/-- **What a scan leaves of a loan**: the loan itself if it was in liquidation, otherwise the loan
as it has been checked. -/
theorem scan_loan {loanId : LoanId} {loan' : Loan AccountId}
    (hget : s'.saving.loans.get? loanId = some loan') : ∃ loan,
      s.saving.loans.get? loanId = some loan ∧
        (loanId ∈ s.saving.inLiquidation ∧ loan' = loan ∨
          loanId ∉ s.saving.inLiquidation ∧ loan.HasLtv β s.btcPrice ∧
          loan' = loan.checked s.btcPrice s.saving.globalLiquidationThreshold
            s.saving.globalWarningThreshold ∧
          (loanId ∈ s'.saving.inLiquidation ↔ (loan.health s.btcPrice
            s.saving.globalLiquidationThreshold
            s.saving.globalWarningThreshold).isLiquidating = true)) := by
  cases hold : s.saving.loans.get? loanId with
  | none =>
    have hsame := (wp_of_ok hscan).mp (onEachBlock_keeps hkeys (Or.inr hold))
    cases (hsame.symm.trans hget).symm.trans hold
  | some loan =>
    refine ⟨loan, rfl, ?_⟩
    by_cases hlisted : loanId ∈ s.saving.inLiquidation
    · have hsame := (wp_of_ok hscan).mp (onEachBlock_keeps hkeys (Or.inl hlisted))
      cases (hsame.symm.trans hget).symm.trans hold
      exact Or.inl ⟨hlisted, rfl⟩
    · obtain ⟨hltv, hchecked, hlist⟩ :=
        (wp_of_ok hscan).mp (onEachBlock_checks hkeys hold hlisted)
      cases hchecked.symm.trans hget
      exact Or.inr ⟨hlisted, hltv, rfl, hlist⟩

omit hkeys in
/-- No loan leaves the list during a scan. -/
theorem scan_listed {loanId : LoanId} (h : loanId ∈ s.saving.inLiquidation) :
    loanId ∈ s'.saving.inLiquidation := by
  have hsteps := (wp_of_ok hscan).mp onEachBlock_spec
  clear hscan
  induction hsteps with
  | refl => exact h
  | tail _ hstep ih => exact hstep.mem_inLiquidation ih

/-- Nothing but statuses is written, and not those of the loans in liquidation. -/
theorem scan_figures (loanId : LoanId) :
    (loanId ∈ s.saving.inLiquidation →
      s'.saving.loans.get? loanId = s.saving.loans.get? loanId) ∧
    (s'.saving.loans.get? loanId).map (fun v => { v with status := .well }) =
      (s.saving.loans.get? loanId).map fun v => { v with status := .well } := by
  refine ⟨fun h => (wp_of_ok hscan).mp (onEachBlock_keeps hkeys (Or.inl h)), ?_⟩
  cases hold : s.saving.loans.get? loanId with
  | none => rw [(wp_of_ok hscan).mp (onEachBlock_keeps hkeys (Or.inr hold)), hold]
  | some loan =>
    by_cases hlisted : loanId ∈ s.saving.inLiquidation
    · rw [(wp_of_ok hscan).mp (onEachBlock_keeps hkeys (Or.inl hlisted)), hold]
    · rw [((wp_of_ok hscan).mp (onEachBlock_checks hkeys hold hlisted)).2.1, Loan.checked_eq]
      rfl

/-- **The statuses match** if no loan that is well has been marked with anything else. -/
theorem statusesMatch_iff (hmarks : s.saving.MarksListed) : s.StatusesMatch β s' ↔
    ∀ loanId loan, s.saving.loans.get? loanId = some loan → loanId ∉ s.saving.inLiquidation →
      loan.health s.btcPrice s.saving.globalLiquidationThreshold
        s.saving.globalWarningThreshold = .well → ∀ ltv, loan.status ≠ .warning ltv := by
  constructor
  · intro h loanId loan hget hcalm hwell ltv hwarned
    obtain ⟨hltv, hchecked, hlist⟩ := (wp_of_ok hscan).mp (onEachBlock_checks hkeys hget hcalm)
    rw [Loan.checked, hwell] at hchecked
    rw [hwell] at hlist
    have hstatus := h.matched loanId loan hchecked fun hin => Bool.false_ne_true (hlist.mp hin)
    rw [checkLoanHealth_ok hltv, hwell, hwarned] at hstatus
    cases hstatus
  · intro hcleared
    refine ⟨fun loanId loan' hget' hcalm' => ?_, fun loanId => (scan_figures hkeys hscan loanId).1,
      fun loanId => (scan_figures hkeys hscan loanId).2⟩
    obtain ⟨loan, hget, ⟨hlisted, -⟩ | ⟨hcalm, hltv, rfl, hlist⟩⟩ := scan_loan hkeys hscan hget'
    · exact absurd (scan_listed hscan hlisted) hcalm'
    · rw [checkLoanHealth_ok (hltv.checked ..), Loan.health_checked]
      cases hhealth : loan.health s.btcPrice s.saving.globalLiquidationThreshold
        s.saving.globalWarningThreshold with
      | well =>
        -- what is written down about a loan that is well has to be that already
        rw [Loan.checked, hhealth]
        cases hst : loan.status with
        | well => rfl
        | warning ltv => exact absurd hst (hcleared loanId loan hget hcalm hhealth ltv)
        | liquidating ltv => exact absurd (hmarks loanId loan hget (by rw [hst]; rfl)) hcalm
      | warning ltv => rw [Loan.checked, hhealth]
      | liquidating ltv =>
        rw [hhealth] at hlist
        exact absurd (hlist.mpr rfl) hcalm'

end Scan

/-- **The statuses match after a scan** if and only if no loan that has recovered was still marked
with a warning: in every reached state, at every price, wherever the scan completes. -/
theorem statuses_match_iff {β : Build} {config : GenesisConfig AccountId} {height : BlockNumber}
    (hgenesis : config.build = some s₀) (hreach : Reachable next s₀ s) (oracle : NewOracle.Store)
    (hscan : (onEachBlock height : Prog β AccountId Unit) { s with oracle := oracle } =
      .ok () s') :
    RuntimeState.StatusesMatch β { s with oracle := oracle } s' ↔
      ∀ loanId loan, s.saving.loans.get? loanId = some loan → loanId ∉ s.saving.inLiquidation →
        loan.health ({ s with oracle := oracle } : RuntimeState AccountId).btcPrice
          s.saving.globalLiquidationThreshold s.saving.globalWarningThreshold = .well →
        ∀ ltv, loan.status ≠ .warning ltv := by
  have hkeys := keysAreIds_of_reach hgenesis hreach
  have hmarks := marksListed_of_reach hgenesis hreach
  -- the oracle is none of the loans' business
  exact statusesMatch_iff (s := { s with oracle := oracle }) hkeys hscan hmarks

/-- The warning about a loan of 100 on 3, at the price of 100. -/
theorem statuses_match_example : ∃ s s', next (signedCall 5 (.applyLoan 3 100)) exampleState =
    some s ∧ (onEachBlock 1 : Prog .debug ℕ Unit) s = .ok () s' ∧ s.StatusesMatch .debug s' := by
  obtain ⟨s, hnext, hwell, hscans⟩ := exists_of_any
    (p := fun s => (s.saving.loans.keys.all fun k => (s.saving.loans.get k).status = .well) = true ∧
      (((onEachBlock 1 : Prog .debug ℕ Unit) s).okState.any fun _ => decide True) = true)
    (o := next (signedCall 5 (.applyLoan 3 100)) exampleState) (by decide +kernel)
  obtain ⟨s', hs', -⟩ := exists_of_any hscans
  have hscan := Outcome.eq_ok_of_okState hs'
  refine ⟨s, s', hnext, hscan, (statuses_match_iff exampleConfig_build
    (Reach.refl.tail trivial hnext) s.oracle hscan).mpr ?_⟩
  intro loanId loan hget _ _ ltv hwarned
  have hmem : loanId ∈ s.saving.loans.keys :=
    StorageMap.containsKey_iff_mem.mp (StorageMap.containsKey_iff_exists.mpr ⟨loan, hget⟩)
  have hstatus := of_decide_eq_true (List.all_eq_true.mp hwell loanId hmem)
  rw [StorageMap.get_of_get? hget, hwarned] at hstatus
  cases hstatus

/-- **A warning stays.** The loan is warned about at the price of 100, and at 200 it is well. -/
theorem not_statuses_match : ¬∀ (s s' : RuntimeState ℕ) height, Reachable next exampleState s →
    (onEachBlock height : Prog .debug ℕ Unit) s = .ok () s' → s.StatusesMatch .debug s' := by
  intro h
  obtain ⟨s, hrun, hscans⟩ := exists_of_any
    (p := fun s => (((onEachBlock 6 : Prog .debug ℕ Unit) s).okState.any fun s' =>
      decide (s'.saving.loans.containsKey 0 = true ∧ 0 ∉ s'.saving.inLiquidation ∧
        (s'.saving.loans.get 0).status = .warning 50000000 ∧
        (s'.saving.loans.get 0).health s.btcPrice s.saving.globalLiquidationThreshold
          s.saving.globalWarningThreshold = .well)) = true)
    (o := run next [signedCall 5 (.applyLoan 3 100), .onInitialize 1, reportStep [] 200,
      .onFinalize 5] exampleState) (by decide +kernel)
  obtain ⟨s', hs', hfound, hcalm, hstatus, hwell⟩ := exists_of_any hscans
  have hmatch := h s s' 6 (reachable_of_run hrun) (Outcome.eq_ok_of_okState hs')
  have hreturned := hmatch.matched 0 _ (StorageMap.get?_of_containsKey hfound) hcalm
  have hspec : wp (checkLoanHealth (s'.saving.loans.get 0) s.btcPrice
      s.saving.globalLiquidationThreshold s.saving.globalWarningThreshold :
      Prog .debug ℕ LoanHealth) (fun health _ => health = .well) (fun _ _ => False) True s' :=
    wp_checkLoanHealth.mpr ⟨fun _ => trivial, fun _ => hwell⟩
  rw [wp_of_ok hreturned, hstatus] at hspec
  cases hspec

end MoneyPool
