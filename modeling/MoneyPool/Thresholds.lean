import MoneyPool.Liquidation

/-!
# Who sets the liquidation threshold

The two thresholds have two setters, and each setter writes the threshold of the other.
So what decides in a block whether a loan goes into liquidation is what was last given as
a *warning* threshold (`MoneyPool.mem_inLiquidation_iff`), and what was last given as a
liquidation threshold is respected exactly where the two agree on the LTV of the loan
(`MoneyPool.liquidated_iff`).
-/

namespace MoneyPool

open Pallet Pallet.Exec DepositLoan RuntimeState

variable {AccountId : Type}

/-! ### What the administrator has said -/

/-- The liquidation threshold that a step gives. -/
def Step.liquidationThreshold : Step AccountId → Option LTV
  | .extrinsic .root (.depositLoan (.setGlobalLiquidationThreshold threshold)) => some threshold
  | _ => none

/-- The warning threshold that a step gives. -/
def Step.warningThreshold : Step AccountId → Option LTV
  | .extrinsic .root (.depositLoan (.setGlobalWarningThreshold threshold)) => some threshold
  | _ => none

variable [DecidableEq AccountId] [Inhabited AccountId] {s s' s₀ : RuntimeState AccountId}

theorem RuntimeState.HookStep.globalLiquidationThreshold (h : s.HookStep s') :
    s'.saving.globalLiquidationThreshold = s.saving.globalLiquidationThreshold := by
  cases h <;> rfl

/-- **The threshold in force** is overwritten with the warning threshold that a step
gives, and with nothing else. -/
theorem globalLiquidationThreshold_of_next {i : Step AccountId} (h : next i s = some s') :
    s'.saving.globalLiquidationThreshold =
      i.warningThreshold.getD s.saving.globalLiquidationThreshold := by
  rcases hgiven : i.warningThreshold with _ | threshold
  · obtain ⟨ok, heff⟩ := next_effect h
    cases heff with
    | set call f hf =>
      -- of the settings only the one that gives a warning threshold writes it
      cases call <;> cases hf <;> first | rfl | cases hgiven
    | redeemed who assetId amount hi hopen hcan hred =>
      obtain ⟨u, m, d, heq⟩ := hred.saving_eq
      rw [heq]
      rfl
    | hook height hsteps =>
      clear h
      induction hsteps with
      | refl => rfl
      | tail _ hstep ih => rw [hstep.globalLiquidationThreshold, ih]
    | _ => rfl
  · unfold Step.warningThreshold at hgiven
    split at hgiven
    · cases hgiven
      cases h
      rfl
    · cases hgiven

/-- What is in force at the end of a run was given last, as a warning threshold. -/
theorem globalLiquidationThreshold_of_run {is : List (Step AccountId)}
    (h : run next is s₀ = some s) :
    s.saving.globalLiquidationThreshold =
      lastGiven Step.warningThreshold s₀.saving.globalLiquidationThreshold is :=
  lastGiven_of_run (fun _ _ _ hnext => globalLiquidationThreshold_of_next hnext) h

/-! ### One turn of the scan -/

section Scan

variable {t : DepositLoan.Store AccountId} {btcPrice : PriceInUSDT} {liquidation warning : LTV}
  {loanId j : LoanId} {loan : Loan AccountId}

omit [DecidableEq AccountId] in
/-- The turn of another loan. -/
theorem DepositLoan.Store.scanned_of_ne (btcPrice : PriceInUSDT) (liquidation warning : LTV)
    (hkeys : t.KeysAreIds) (hfound : t.loans.containsKey j = true) (hj : j ≠ loanId) :
    (t.scanned btcPrice liquidation warning j).loans.get? loanId = t.loans.get? loanId ∧
      (loanId ∈ (t.scanned btcPrice liquidation warning j).inLiquidation ↔
        loanId ∈ t.inLiquidation) := by
  rcases t.scanned_cases btcPrice liquidation warning j with h | ⟨-, ltv, h | h⟩
  · rw [h]
    exact ⟨rfl, Iff.rfl⟩
  · rw [h, warned, hkeys.get hfound]
    refine ⟨?_, Iff.rfl⟩
    rw [StorageMap.get?_mutate, if_neg (Ne.symm hj)]
  · rw [h, liquidating]
    refine ⟨?_, ?_⟩
    · rw [StorageMap.get?_mutate, if_neg (Ne.symm hj)]
    · change loanId ∈ t.inLiquidation ++ [j] ↔ _
      rw [List.mem_append, List.mem_singleton, or_iff_left (Ne.symm hj)]

omit [DecidableEq AccountId] in
/-- **The turn of a loan** that is not in liquidation: it is put there exactly if its LTV
has reached the threshold. -/
theorem DepositLoan.Store.scanned_self (hget : t.loans.get? loanId = some loan)
    (hcalm : loanId ∉ t.inLiquidation) :
    loanId ∈ (t.scanned btcPrice liquidation warning loanId).inLiquidation ↔
      liquidation ≤ ((loan.ltvQuotient btcPrice).setWidth 64 : LTV) := by
  have hnot : ¬t.checkLoanInLiquidation loanId = true := fun h =>
    hcalm (checkLoanInLiquidation_iff.mp h)
  rw [scanned, if_neg hnot, StorageMap.get_of_get? hget, Loan.health]
  by_cases hle : liquidation ≤ ((loan.ltvQuotient btcPrice).setWidth 64 : LTV)
  · refine iff_of_true ?_ hle
    simp only [if_pos hle]
    exact List.mem_append.mpr (Or.inr (List.mem_singleton_self loanId))
  · refine iff_of_false ?_ hle
    simp only [if_neg hle]
    -- a loan whose LTV has not reached the threshold is well or warned about
    rcases Classical.em (warning ≤ ((loan.ltvQuotient btcPrice).setWidth 64 : LTV)) with hw | hw
    · simp only [if_pos hw]
      split
      · exact hcalm
      · exact hcalm
    · simp only [if_neg hw]
      exact hcalm

end Scan

/-! ### The hook -/

/-- The loans that a scan has started with are still there, under their ids. -/
structure RuntimeState.Scanning (ids : List LoanId) (s : RuntimeState AccountId) : Prop where
  keysAreIds : s.saving.KeysAreIds
  found : ∀ loanId ∈ ids, s.saving.loans.containsKey loanId = true

section Hook

variable {β : Build} {ids : List LoanId} {loanId : LoanId} {loan : Loan AccountId} {ltv : LTV}
  {height : BlockNumber}

theorem RuntimeState.Scanning.scanned (h : s.Scanning ids) (hmem : loanId ∈ ids)
    (btcPrice : PriceInUSDT) (liquidation warning : LTV) :
    (s.withSaving fun t => t.scanned btcPrice liquidation warning loanId).Scanning ids := by
  rcases scanned_hookStep btcPrice liquidation warning (h.found loanId hmem) with heq | hstep
  · rw [heq]
    exact h
  · exact ⟨hstep.keysAreIds h.keysAreIds, fun k hk => HookStep.containsKey hstep (h.found k hk)⟩

/-- **The scan** puts a loan into liquidation exactly if its LTV has reached the
threshold in force. -/
theorem onEachBlock_liquidates (hkeys : s.saving.KeysAreIds)
    (hget : s.saving.loans.get? loanId = some loan) (hcalm : loanId ∉ s.saving.inLiquidation) :
    wp (onEachBlock height : Prog β AccountId Unit)
      (fun _ s' => loanId ∈ s'.saving.inLiquidation ↔
        s.saving.globalLiquidationThreshold ≤ ((loan.ltvQuotient s.btcPrice).setWidth 64 : LTV))
      (fun _ _ => False) True s := by
  simp only [onEachBlock, wp_bind, wp_gets]
  have hmem : loanId ∈ s.saving.loans.keys :=
    StorageMap.containsKey_iff_mem.mp (StorageMap.containsKey_iff_exists.mpr ⟨loan, hget⟩)
  have hstart : s.Scanning s.saving.loans.keys :=
    ⟨hkeys, fun _ h => StorageMap.containsKey_iff_mem.mpr h⟩
  -- until its turn comes the loan stays as it is, and afterwards on or off the list
  refine wp_mono (wp_forEach_turn
    (fun t => t.Scanning s.saving.loans.keys ∧ t.saving.loans.get? loanId = some loan ∧
      loanId ∉ t.saving.inLiquidation)
    (fun t => t.Scanning s.saving.loans.keys ∧ (loanId ∈ t.saving.inLiquidation ↔
      s.saving.globalLiquidationThreshold ≤ ((loan.ltvQuotient s.btcPrice).setWidth 64 : LTV)))
    s.saving.loans.nodup hmem ?_ ?_ ?_ ⟨hstart, hget, hcalm⟩) (fun _ _ h => h.2)
    (fun _ _ h => h) id
  · rintro j hj hne t ⟨hscan, htget, htcalm⟩
    rw [wp_scanLoan]
    obtain ⟨hloans, hlist⟩ := Store.scanned_of_ne s.btcPrice s.saving.globalLiquidationThreshold
      s.saving.globalWarningThreshold hscan.keysAreIds (hscan.found j hj) hne
    exact ⟨fun _ => trivial, fun _ => ⟨hscan.scanned hj _ _ _, hloans.trans htget,
      fun h => htcalm (hlist.mp h)⟩⟩
  · rintro t ⟨hscan, htget, htcalm⟩
    rw [wp_scanLoan]
    exact ⟨fun _ => trivial, fun _ => ⟨hscan.scanned hmem _ _ _, Store.scanned_self htget htcalm⟩⟩
  · rintro j hj hne t ⟨hscan, hiff⟩
    rw [wp_scanLoan]
    obtain ⟨-, hlist⟩ := Store.scanned_of_ne s.btcPrice s.saving.globalLiquidationThreshold
      s.saving.globalWarningThreshold hscan.keysAreIds (hscan.found j hj) hne
    exact ⟨fun _ => trivial, fun _ => ⟨hscan.scanned hj _ _ _, hlist.trans hiff⟩⟩

/-- The hook puts a loan into liquidation exactly if the scan does. -/
theorem onInitialize_liquidates (height : BlockNumber) (hkeys : s.saving.KeysAreIds)
    (hopen : s.saving.paused = false)
    (hget : s.saving.loans.get? loanId = some loan) (hcalm : loanId ∉ s.saving.inLiquidation) :
    wp (onInitialize height : Prog β AccountId Unit)
      (fun _ s' => loanId ∈ s'.saving.inLiquidation ↔
        s.saving.globalLiquidationThreshold ≤ ((loan.ltvQuotient s.btcPrice).setWidth 64 : LTV))
      (fun _ _ => False) True s := by
  simp only [onInitialize, wp_bind, wp_gets, wp_ite, wp_pure]
  refine ⟨fun _ => ?_, fun hno => absurd hopen hno⟩
  refine wp_mono (onEachBlock_liquidates hkeys hget hcalm) (fun _ t ht => ?_) (fun _ _ h => h) id
  exact calculateLoanInterestRate_spec
    (I := fun t : RuntimeState AccountId => loanId ∈ t.saving.inLiquidation ↔
      s.saving.globalLiquidationThreshold ≤ ((loan.ltvQuotient s.btcPrice).setWidth 64 : LTV))
    (fun _ _ _ _ h => h) (fun _ _ _ _ h => h) ht

omit [DecidableEq AccountId] [Inhabited AccountId] in
/-- What `get_ltv` computes, where it does. -/
theorem getLtv_eq
    (h : (getLtv loan.collateralBalanceAvailable loan.loanBalanceTotal s.btcPrice :
      Prog β AccountId LTV) s = .ok ltv s') :
    ltv = (loan.ltvQuotient s.btcPrice).setWidth 64 := by
  have hspec : wp (getLtv loan.collateralBalanceAvailable loan.loanBalanceTotal s.btcPrice :
      Prog β AccountId LTV) (fun ltv _ => ltv = (loan.ltvQuotient s.btcPrice).setWidth 64)
      (fun _ _ => False) True s := by
    simp only [getLtv, wp_bind, wp_mul, wp_div, wp_unwrap_tryInto, imp_true_iff, true_and]
    intro _ _ _ _ _
    rfl
  exact (wp_of_ok h).mp hspec

omit [DecidableEq AccountId] [Inhabited AccountId] in
/-- Where `get_ltv` computes something. -/
theorem getLtv_ok (h : loan.HasLtv .release s.btcPrice) :
    (getLtv loan.collateralBalanceAvailable loan.loanBalanceTotal s.btcPrice :
      Prog .release AccountId LTV) s = .ok ((loan.ltvQuotient s.btcPrice).setWidth 64) s := by
  have hspec : wp (getLtv loan.collateralBalanceAvailable loan.loanBalanceTotal s.btcPrice :
      Prog .release AccountId LTV)
      (fun ltv t => ltv = (loan.ltvQuotient s.btcPrice).setWidth 64 ∧ t = s)
      (fun _ _ => False) False s := by
    simp only [getLtv, wp_bind, wp_mul, wp_div, wp_unwrap_tryInto, Bool.false_eq_true,
      false_imp_iff, not_true_eq_false, true_imp_iff, true_and]
    exact ⟨fun hno => hno h.divisor, fun _ => ⟨fun hno => hno h.fits, fun _ => ⟨rfl, trivial⟩⟩⟩
  obtain ⟨_, _, hx, rfl, rfl⟩ := exists_ok_of_wp hspec
  exact hx

end Hook

/-! ### Runs -/

section Runs

variable {config : GenesisConfig AccountId} {is : List (Step AccountId)} {height : BlockNumber}
  {loanId : LoanId} {loan : Loan AccountId} {ltv : LTV}

/-- **The threshold in force.** A loan that is not in liquidation is put there in a block
exactly if its LTV has reached what was last given as a warning threshold. -/
theorem mem_inLiquidation_iff (hgenesis : config.build = some s₀) (hrun : run next is s₀ = some s)
    (hopen : s.saving.paused = false) (hnext : next (.onInitialize height) s = some s')
    (hget : s.saving.loans.get? loanId = some loan) (hcalm : loanId ∉ s.saving.inLiquidation)
    (hltv : (getLtv loan.collateralBalanceAvailable loan.loanBalanceTotal s.btcPrice :
      Prog .release AccountId LTV) s = .ok ltv s) :
    loanId ∈ s'.saving.inLiquidation ↔
      lastGiven Step.warningThreshold config.depositLoan.globalLiquidationThreshold is ≤ ltv := by
  have hkeys := keysAreIds_of_reach hgenesis (reachable_of_run hrun)
  have hforce := globalLiquidationThreshold_of_run hrun
  rw [config.saving_of_build hgenesis] at hforce
  have hspec := onInitialize_liquidates (β := .release) height hkeys hopen hget hcalm
  rw [getLtv_eq hltv]
  change _ ↔ lastGiven Step.warningThreshold config.depositLoan.build.globalLiquidationThreshold is
    ≤ _
  rw [← hforce]
  unfold next at hnext
  split at hnext
  · rename_i hx
    cases hnext
    exact (wp_of_ok hx).mp hspec
  · rename_i hx
    exact ((wp_of_err hx).mp hspec).elim
  · cases hnext

/-- **The announced threshold.** That a loan is put into liquidation exactly if its LTV
has reached what was last given as a liquidation threshold, holds exactly if its LTV has
reached either both or none of what was last given as the one threshold and the other. -/
theorem liquidated_iff (hgenesis : config.build = some s₀) (hrun : run next is s₀ = some s)
    (hopen : s.saving.paused = false) (hnext : next (.onInitialize height) s = some s')
    (hget : s.saving.loans.get? loanId = some loan) (hcalm : loanId ∉ s.saving.inLiquidation)
    (hltv : (getLtv loan.collateralBalanceAvailable loan.loanBalanceTotal s.btcPrice :
      Prog .release AccountId LTV) s = .ok ltv s) :
    (loanId ∈ s'.saving.inLiquidation ↔
      lastGiven Step.liquidationThreshold config.depositLoan.globalLiquidationThreshold is ≤ ltv) ↔
    (lastGiven Step.warningThreshold config.depositLoan.globalLiquidationThreshold is ≤ ltv ↔
      lastGiven Step.liquidationThreshold config.depositLoan.globalLiquidationThreshold is ≤
        ltv) := by
  rw [mem_inLiquidation_iff hgenesis hrun hopen hnext hget hcalm hltv]

end Runs

/-- A transition in which nothing overflows and nothing is divided by zero. -/
def nextChecked (i : Step AccountId) (s : RuntimeState AccountId) :
    Option (RuntimeState AccountId) :=
  match (i.exec : Prog .debug AccountId Unit) s with
  | .ok _ s' => some s'
  | .err _ s' => some s'
  | .panic => none

/-- A run of the example in which the administrator gives a liquidation threshold of 40%,
and a loan of 100 is granted. -/
def announcedRun (collateralAmount : Balance) : List (Step ℕ) :=
  [.extrinsic .root (.depositLoan (.setGlobalLiquidationThreshold 40000000)),
    signedCall 5 (.applyLoan collateralAmount 100)]

/-- That loan, before the next block. -/
structure AnnouncedLoan (s : RuntimeState ℕ) (ltv : LTV) : Prop where
  notPaused : s.saving.paused = false
  calm : 0 ∉ s.saving.inLiquidation
  found : s.saving.loans.get? 0 = some (s.saving.loans.get 0)
  ltv : (getLtv (s.saving.loans.get 0).collateralBalanceAvailable
    (s.saving.loans.get 0).loanBalanceTotal s.btcPrice : Prog .release ℕ LTV) s = .ok ltv s

theorem exists_announcedLoan (collateralAmount : Balance) (ltv : LTV)
    (h : ((run next (announcedRun collateralAmount) exampleState).any fun s =>
      decide (s.saving.paused = false ∧ 0 ∉ s.saving.inLiquidation ∧
        s.saving.loans.containsKey 0 = true ∧
        (s.saving.loans.get 0).collateralBalanceAvailable * ofU64 s.btcPrice ≠ 0 ∧
        ((s.saving.loans.get 0).ltvQuotient s.btcPrice).toNat < 2 ^ 64 ∧
        ((s.saving.loans.get 0).ltvQuotient s.btcPrice).setWidth 64 = ltv)) = true) :
    ∃ s, run next (announcedRun collateralAmount) exampleState = some s ∧ AnnouncedLoan s ltv := by
  obtain ⟨s, hrun, hopen, hcalm, hfound, hdiv, hfits, rfl⟩ := exists_of_any h
  have hltv : (s.saving.loans.get 0).HasLtv .release s.btcPrice :=
    ⟨hdiv, hfits, fun hp => absurd hp Bool.false_ne_true⟩
  exact ⟨s, hrun, hopen, hcalm, StorageMap.get?_of_containsKey hfound, getLtv_ok hltv⟩

/-- A loan whose LTV has reached both thresholds is put into liquidation. -/
theorem liquidated_example : ∃ s s', run next (announcedRun 2) exampleState = some s ∧
    next (.onInitialize 1) s = some s' ∧
    (0 ∈ s'.saving.inLiquidation ↔ lastGiven Step.liquidationThreshold
      exampleConfig.depositLoan.globalLiquidationThreshold (announcedRun 2) ≤ 100000000) := by
  obtain ⟨s, hrun, hloan⟩ := exists_announcedLoan 2 100000000 (by decide +kernel)
  obtain ⟨s', hnext⟩ : ∃ s', next (.onInitialize 1) s = some s' := by
    have hsome : ((run next (announcedRun 2) exampleState).bind (next (.onInitialize 1))).isSome =
        true := by decide +kernel
    rw [hrun] at hsome
    exact Option.isSome_iff_exists.mp hsome
  exact ⟨s, s', hrun, hnext, (liquidated_iff exampleConfig_build hrun hloan.notPaused hnext
    hloan.found hloan.calm hloan.ltv).mpr (by decide)⟩

/-- The administrator gives a liquidation threshold that the LTV of the loan has reached,
and the loan is not put into liquidation. -/
theorem not_liquidated : ¬∀ (is : List (Step ℕ)) s height s' loanId loan ltv,
    run next is exampleState = some s → s.saving.paused = false →
    next (.onInitialize height) s = some s' →
    (run nextChecked (is ++ [.onInitialize height]) exampleState).isSome = true →
    s.saving.loans.get? loanId = some loan → loanId ∉ s.saving.inLiquidation →
    (getLtv loan.collateralBalanceAvailable loan.loanBalanceTotal s.btcPrice :
      Prog .release ℕ LTV) s = .ok ltv s →
    (loanId ∈ s'.saving.inLiquidation ↔ lastGiven Step.liquidationThreshold
      exampleConfig.depositLoan.globalLiquidationThreshold is ≤ ltv) := by
  intro h
  obtain ⟨s, hrun, hloan⟩ := exists_announcedLoan 3 50000000 (by decide +kernel)
  obtain ⟨s', hnext, hcalm⟩ : ∃ s', next (.onInitialize 1) s = some s' ∧
      0 ∉ s'.saving.inLiquidation := by
    have hany : ((run next (announcedRun 3) exampleState).bind (next (.onInitialize 1))).any
        (fun s' => decide (0 ∉ s'.saving.inLiquidation)) = true := by decide +kernel
    rw [hrun] at hany
    exact exists_of_any hany
  have hiff := h _ s 1 s' 0 _ _ hrun hloan.notPaused hnext (by decide +kernel) hloan.found
    hloan.calm hloan.ltv
  exact hcalm (hiff.mpr (by decide))

end MoneyPool
