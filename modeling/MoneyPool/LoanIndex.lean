import MoneyPool.LoanBook

/-!
# The index of the loans

The loans are found in two ways, by their id and by the account that took them. The
two maps are written by hand in every operation, and they stay consistent: an id is
listed under the owner of its loan, once, and nowhere else. What keeps a new loan from
overwriting an old one is that all ids in use are below the counter, for as long as
the counter does not wrap (`MoneyPool.loans_indexed`).
-/

namespace MoneyPool

open Pallet Pallet.Exec DepositLoan RuntimeState

variable {AccountId : Type} [DecidableEq AccountId] [Inhabited AccountId]

/-! ### A consistent index -/

/-- The owner of the loan stored under an id. -/
def DepositLoan.Store.ownerOf (t : DepositLoan.Store AccountId) (loanId : LoanId) :
    Option AccountId :=
  (t.loans.get? loanId).map Loan.who

/-- **The index is consistent**: the ids in use are below the counter, and an account's
list has each of its loans once and nothing else. -/
structure DepositLoan.Store.Indexed (t : DepositLoan.Store AccountId) : Prop where
  below : ∀ loanId, t.loans.containsKey loanId = true → loanId < t.nextLoanId
  listed : ∀ who loanId, (t.loansByAccount.get who).count loanId =
    if t.ownerOf loanId = some who then 1 else 0

/-- Whether an application gets as far as using up an id. -/
structure RuntimeState.TakesId (s : RuntimeState AccountId) (who : AccountId)
    (collateralAmount loanAmount : Balance) : Prop where
  funded : loanAmount ≤ s.cash
  capped : ¬(s.saving.loanCap.isSome = true ∧ s.saving.loanCap.getD 0 ≤ s.saving.totalLoan)
  granted : s.CanGrant .release collateralAmount loanAmount
  minimum : s.saving.minimumCollateral ≤ collateralAmount
  covered : (s.terms collateralAmount loanAmount).collateralAmount ≤
    s.assets.free s.saving.collateralAssetId who
  price : s.price ≠ 0

/-- **When a step keeps the counter of ids growing**: no application uses up the last
id. -/
def RuntimeState.KeepsIds (s : RuntimeState AccountId) : Step AccountId → Prop
  | .extrinsic (.signed who) (.depositLoan (.applyLoan collateralAmount loanAmount)) =>
    s.saving.paused = false → s.TakesId who collateralAmount loanAmount →
      s.saving.nextLoanId.toNat + 1 < 2 ^ 64
  | _ => True

section Index

variable {t t' : DepositLoan.Store AccountId} {loanId : LoanId} {loan : Loan AccountId}
  {who : AccountId}

omit [Inhabited AccountId] in
/-- The index is about the owners, the lists and the counter, which may grow. -/
theorem DepositLoan.Store.Indexed.of_eq (h : t.Indexed)
    (howner : ∀ loanId, t'.ownerOf loanId = t.ownerOf loanId)
    (hlist : t'.loansByAccount = t.loansByAccount) (hnext : t.nextLoanId ≤ t'.nextLoanId) :
    t'.Indexed := by
  have hfound : ∀ loanId, t'.loans.containsKey loanId = t.loans.containsKey loanId := by
    intro loanId
    have := congrArg Option.isSome (howner loanId)
    simpa only [ownerOf, Option.isSome_map, StorageMap.containsKey] using this
  refine ⟨fun loanId hkey => ?_, fun who loanId => ?_⟩
  · have hlt := BitVec.lt_def.mp (h.below loanId (hfound loanId ▸ hkey))
    exact BitVec.lt_def.mpr (hlt.trans_le (BitVec.le_def.mp hnext))
  · rw [hlist, howner, h.listed]

omit [DecidableEq AccountId] in
/-- The owner of a loan that is there. -/
theorem DepositLoan.Store.ownerOf_of_containsKey (h : t.loans.containsKey loanId = true) :
    t.ownerOf loanId = some (t.loans.get loanId).who := by
  rw [ownerOf, StorageMap.get?_of_containsKey h]
  rfl

omit [DecidableEq AccountId] [Inhabited AccountId] in
/-- A loan may be rewritten for the same owner. -/
theorem DepositLoan.Store.ownerOf_insert (hb : t'.loans = t.loans.insert loanId loan)
    (howner : t.ownerOf loanId = some loan.who) (k : LoanId) : t'.ownerOf k = t.ownerOf k := by
  rw [ownerOf, hb, StorageMap.get?_insert]
  split
  · rename_i hk
    rw [hk, howner]
    rfl
  · rfl

omit [Inhabited AccountId] in
/-- **A new loan** gets the next id, which is listed under its owner. -/
theorem DepositLoan.Store.Indexed.create (h : t.Indexed)
    (hroom : t.nextLoanId.toNat + 1 < 2 ^ 64)
    (hb : t'.loans = t.loans.insert t.nextLoanId loan)
    (hlist : t'.loansByAccount = t.loansByAccount.mutate loan.who fun v => v ++ [t.nextLoanId])
    (hnext : t'.nextLoanId = t.nextLoanId + 1) : t'.Indexed := by
  have hlt : t.nextLoanId < t'.nextLoanId := by
    rw [hnext, BitVec.lt_def, BitVec.toNat_add_of_lt hroom]
    exact Nat.lt_add_one _
  have hfresh : t.ownerOf t.nextLoanId = none := by
    have hnot : ¬t.loans.containsKey t.nextLoanId = true := fun hkey =>
      BitVec.lt_irrefl _ (h.below _ hkey)
    rw [ownerOf, StorageMap.containsKey_eq_false.mp (by simpa using hnot)]
    rfl
  have howner : ∀ k, t'.ownerOf k =
      if k = t.nextLoanId then some loan.who else t.ownerOf k := by
    intro k
    rw [ownerOf, hb, StorageMap.get?_insert]
    split <;> rfl
  refine ⟨fun k hkey => ?_, fun who k => ?_⟩
  · rw [hb, StorageMap.containsKey_iff_mem] at hkey
    rcases StorageMap.mem_keys_insert.mp hkey with rfl | hmem
    · exact hlt
    · exact BitVec.lt_trans (h.below k (StorageMap.containsKey_iff_mem.mpr hmem)) hlt
  · rw [hlist, StorageMap.get_mutate, howner]
    -- only the new id is appended, and only to the list of its owner
    by_cases hk : k = t.nextLoanId
    · have hold : ∀ who, (t.loansByAccount.get who).count t.nextLoanId = 0 := by
        intro who
        rw [h.listed, hfresh]
        exact if_neg (Option.some_ne_none who).symm
      by_cases hwho : who = loan.who
      · simp [hk, hwho, hold]
      · simp [hk, hwho, hold, Ne.symm hwho]
    · by_cases hwho : who = loan.who
      · rw [if_pos hwho, if_neg hk, List.count_append, List.count_singleton, ← hwho, h.listed]
        simp [Ne.symm hk]
      · rw [if_neg hwho, if_neg hk, h.listed]

omit [Inhabited AccountId] in
/-- **A deleted loan** is taken off the list of its owner. -/
theorem DepositLoan.Store.Indexed.delete (h : t.Indexed) (howner : t.ownerOf loanId = some who)
    (hb : t'.loans = t.loans.remove loanId)
    (hlist : t'.loansByAccount = t.loansByAccount.mutate who fun v => v.filter (· ≠ loanId))
    (hnext : t'.nextLoanId = t.nextLoanId) : t'.Indexed := by
  have howner' : ∀ k, t'.ownerOf k = if k = loanId then none else t.ownerOf k := by
    intro k
    rw [ownerOf, hb, StorageMap.get?_remove]
    split <;> rfl
  refine ⟨fun k hkey => ?_, fun w k => ?_⟩
  · rw [hb, StorageMap.containsKey, StorageMap.get?_remove] at hkey
    rw [hnext]
    split at hkey
    · cases hkey
    · exact h.below k hkey
  · rw [hlist, StorageMap.get_mutate, howner']
    by_cases hk : k = loanId
    · subst hk
      by_cases hw : w = who
      · simp [hw, List.count_eq_zero]
      · rw [if_neg hw, h.listed, howner]
        simp [Ne.symm hw]
    · by_cases hw : w = who
      · rw [if_pos hw, if_neg hk, ← hw, List.count_filter (by simpa using hk), h.listed]
      · rw [if_neg hw, if_neg hk, h.listed]

omit [Inhabited AccountId] in
/-- **A reverted repayment** takes the loan off the list and puts it back at the end. -/
theorem DepositLoan.Store.Indexed.relist (h : t.Indexed) (howner : t.ownerOf loanId = some who)
    (hb : t'.loans = t.loans)
    (hlist : t'.loansByAccount = (t.loansByAccount.mutate who fun v =>
      v.filter (· ≠ loanId)).mutate who fun v => v ++ [loanId])
    (hnext : t'.nextLoanId = t.nextLoanId) : t'.Indexed := by
  have howner' : ∀ k, t'.ownerOf k = t.ownerOf k := fun k => by rw [ownerOf, hb, ownerOf]
  refine ⟨fun k hkey => ?_, fun w k => ?_⟩
  · rw [hnext]
    exact h.below k (hb ▸ hkey)
  · rw [hlist, StorageMap.get_mutate, StorageMap.get_mutate, StorageMap.get_mutate, howner',
      if_pos rfl]
    by_cases hw : w = who
    · rw [if_pos hw, List.count_append, List.count_singleton]
      by_cases hk : k = loanId
      · subst hk
        simp [hw, howner, List.count_eq_zero]
      · rw [List.count_filter (by simpa using hk), ← hw, h.listed]
        simp [Ne.symm hk]
    · rw [if_neg hw, if_neg hw, h.listed]

end Index

/-! ### Steps -/

variable {s s' : RuntimeState AccountId} {i : Step AccountId} {ok : Bool}

theorem RuntimeState.HookStep.indexed (h : s.HookStep s') (hkeys : s.saving.KeysAreIds)
    (hindex : s.saving.Indexed) : s'.saving.Indexed := by
  cases h with
  | warned loanId ltv hfound =>
    refine hindex.of_eq (Store.ownerOf_insert rfl ?_) rfl (BitVec.le_refl _)
    rw [hkeys.get hfound]
    exact Store.ownerOf_of_containsKey hfound
  | liquidating loanId ltv hfound =>
    exact hindex.of_eq (Store.ownerOf_insert rfl (Store.ownerOf_of_containsKey hfound)) rfl
      (BitVec.le_refl _)
  | charged => exact hindex
  | accrued => exact hindex.of_eq (fun _ => rfl) rfl (BitVec.le_refl _)

omit [DecidableEq AccountId] [Inhabited AccountId] in
/-- A setting leaves the index alone. -/
theorem setting_index {t : DepositLoan.Store AccountId} {call : DepositLoan.Call AccountId}
    {f : DepositLoan.Store AccountId → DepositLoan.Store AccountId} (h : call.setting = some f) :
    (f t).loansByAccount = t.loansByAccount ∧ (f t).nextLoanId = t.nextLoanId := by
  cases call <;> cases h <;> exact ⟨rfl, rfl⟩

/-- **An application that has an effect** has used up an id. -/
theorem takesId_of_next {who : AccountId} {collateralAmount loanAmount : Balance}
    (h : next (.extrinsic (.signed who) (.depositLoan (.applyLoan collateralAmount loanAmount))) s =
      some s') : s' = s ∨ s.saving.paused = false ∧ s.TakesId who collateralAmount loanAmount := by
  refine next_of_wp (R := fun t => t = s ∨ s.saving.paused = false ∧
    s.TakesId who collateralAmount loanAmount) h ?_ (Or.inl rfl)
  simp only [Step.exec, MoneyPool.dispatch, DepositLoan.dispatch, applyLoan, wp_bind, wp_gets,
    wp_ensure, wp_ensureSigned, true_or, imp_true_iff, and_true]
  rintro hopen _ ⟨⟩
  simp only [applyForLoan, wp_bind, wp_gets, wp_ensure, true_or, imp_true_iff, and_true]
  intro hfund hcap
  refine wp_mono getCollateralLoan_spec ?_ (fun _ _ h => Or.inl h) id
  rintro r t ⟨hgrant, rfl, rfl⟩
  simp only [wp_makeTransferWithEvent, wp_getNextLoanId, wp_div, wp_sub, wp_modify,
    wp_addTotalLoan, wp_addTotalCollateral, imp_true_iff, true_and, and_true, true_or]
  intro hmin hcov _ _ hprice _
  have htakes : t.TakesId who collateralAmount loanAmount :=
    ⟨hfund, hcap, hgrant, hmin, hcov, hprice⟩
  exact ⟨fun _ _ _ _ => Or.inr ⟨hopen, htakes⟩, fun _ => Or.inr ⟨hopen, htakes⟩⟩

omit [Inhabited AccountId] in
/-- An application whose loan is granted has used up an id. -/
theorem RuntimeState.CanApply.takesId {who : AccountId} {collateralAmount loanAmount : Balance}
    (h : s.CanApply .release who collateralAmount loanAmount) :
    s.TakesId who collateralAmount loanAmount :=
  ⟨h.funded, h.capped, h.granted, h.minimum, h.covered, h.price⟩

/-- **The index stays consistent** in every step that keeps the counter growing. -/
theorem Effect.indexed (h : Effect s i ok s') (hnext : next i s = some s')
    (hkeys : s.saving.KeysAreIds) (hindex : s.saving.Indexed) (hi : s.KeepsIds i) :
    s'.saving.Indexed := by
  cases h with
  | unchanged => exact hindex
  | timed => exact hindex
  | oracleCall => exact hindex
  | aggregated => exact hindex
  | ledgerCall => exact hindex
  | ledgerFailed => exact hindex
  | set call f hf =>
    obtain ⟨hlist, hcount⟩ := setting_index hf
    refine hindex.of_eq (fun k => ?_) hlist (BitVec.le_of_eq hcount.symm)
    rw [Store.ownerOf, withSaving, setting_loans hf, Store.ownerOf]
  | staked => exact hindex.of_eq (fun _ => rfl) rfl (BitVec.le_refl _)
  | redeemed who assetId amount hredeem hopen hcan hred =>
    obtain ⟨u, m, d, heq⟩ := hred.saving_eq
    rw [heq]
    exact hindex.of_eq (fun _ => rfl) rfl (BitVec.le_refl _)
  | granted who collateralAmount loanAmount hopen hcan =>
    exact hindex.create (hi hopen hcan.takesId) rfl rfl rfl
  | taken who collateralAmount loanAmount hopen =>
    rcases takesId_of_next hnext with heq | ⟨-, htakes⟩
    · rw [heq]
      exact hindex
    · -- the id is used up, and nothing is stored under it
      refine hindex.of_eq (fun _ => rfl) rfl ?_
      have hroom := hi hopen htakes
      rw [BitVec.le_def]
      change _ ≤ (s.saving.nextLoanId + 1).toNat
      rw [BitVec.toNat_add_of_lt hroom]
      exact Nat.le_add_right _ _
  | repaid who loanId hopen htry hret =>
    have hid := hkeys.get htry.found
    have howner : s.saving.ownerOf loanId = some who := by
      rw [Store.ownerOf_of_containsKey htry.found, htry.owner]
    refine hindex.delete howner ?_ rfl rfl
    rw [RuntimeState.repaid, hid]
  | repayReverted who loanId assets hopen htry hret =>
    have hid := hkeys.get htry.found
    have howner : s.saving.ownerOf loanId = some who := by
      rw [Store.ownerOf_of_containsKey htry.found, htry.owner]
    refine hindex.relist howner ?_ ?_ rfl
    · rw [RuntimeState.repayReverted, hid,
        StorageMap.insert_of_get? (StorageMap.get?_of_containsKey htry.found)]
    · rw [RuntimeState.repayReverted, hid]
  | liquidated who loanId auctionBalance hopen hwho hfound htry hset =>
    have hid := hkeys.get hfound
    refine hindex.delete (Store.ownerOf_of_containsKey hfound) ?_ ?_ rfl
    · rw [RuntimeState.liquidated, hid]
    · rw [RuntimeState.liquidated, hid]
  | notLiquidated => exact hindex
  | collateralAdded who loanId amount hopen hfound howner hcov =>
    refine hindex.of_eq (Store.ownerOf_insert rfl ?_) rfl (BitVec.le_refl _)
    rw [hkeys.get hfound]
    exact Store.ownerOf_of_containsKey hfound
  | drawn who loanId amount hopen hcan =>
    exact hindex.of_eq (Store.ownerOf_insert rfl (Store.ownerOf_of_containsKey hcan.found)) rfl
      (BitVec.le_refl _)
  | hook height hsteps =>
    -- the ids stay keys along the steps of the hook
    suffices hboth : s'.saving.KeysAreIds ∧ s'.saving.Indexed from hboth.2
    clear hnext
    induction hsteps with
    | refl => exact ⟨hkeys, hindex⟩
    | tail _ hstep ih => exact ⟨hstep.keysAreIds ih.1, hstep.indexed ih.1 ih.2⟩

/-! ### Runs -/

/-- The index is consistent at the start. -/
theorem indexed_of_build {config : GenesisConfig AccountId} {s₀ : RuntimeState AccountId}
    (hgenesis : config.build = some s₀) : s₀.saving.Indexed := by
  rw [config.saving_of_build hgenesis]
  refine ⟨fun _ h => ?_, fun who loanId => ?_⟩
  · exact absurd h Bool.false_ne_true
  · exact (if_neg (Option.some_ne_none who).symm).symm

/-- **The two maps and the counter agree** in every state that is reached without using
up the last id: a loan is stored under its own id, which is below the counter, and is
listed once, under its owner. -/
theorem loans_indexed {config : GenesisConfig AccountId} {s₀ : RuntimeState AccountId}
    (hgenesis : config.build = some s₀)
    (hreach : Reach next (fun s i => s.KeepsIds i) s₀ s) :
    (∀ loanId loan, s.saving.loans.get? loanId = some loan →
      loan.id = loanId ∧ loanId < s.saving.nextLoanId) ∧
    ∀ who loanId, (s.saving.loansByAccount.get who).count loanId =
      if (s.saving.loans.get? loanId).map Loan.who = some who then 1 else 0 := by
  have hkeys := keysAreIds_of_reach hgenesis hreach
  have hindex : s.saving.Indexed := by
    refine invariant_of_reach (I := fun s => s.saving.Indexed) hgenesis hreach
      (indexed_of_build hgenesis) ?_
    intro s i ok s' heff hnext hkeys hi hindex
    exact heff.indexed hnext hkeys hindex hi
  refine ⟨fun loanId loan hget => ⟨hkeys _ _ hget, hindex.below loanId ?_⟩, hindex.listed⟩
  exact StorageMap.containsKey_iff_exists.mpr ⟨loan, hget⟩

theorem loans_indexed_example :
    ∃ s, next (signedCall 5 (.applyLoan 2 100)) exampleState = some s ∧
      s.saving.loansByAccount.get 5 = [0] ∧
      (∀ loanId loan, s.saving.loans.get? loanId = some loan →
        loan.id = loanId ∧ loanId < s.saving.nextLoanId) ∧
      ∀ who loanId, (s.saving.loansByAccount.get who).count loanId =
        if (s.saving.loans.get? loanId).map Loan.who = some who then 1 else 0 := by
  obtain ⟨s, hnext, hlist⟩ := exists_of_any (p := fun s => s.saving.loansByAccount.get 5 = [0])
    (o := next (signedCall 5 (.applyLoan 2 100)) exampleState) (by decide +kernel)
  have hkeeps : exampleState.KeepsIds (signedCall 5 (.applyLoan 2 100)) :=
    fun _ _ => by decide +kernel
  exact ⟨s, hnext, hlist, loans_indexed exampleConfig_build (Reach.refl.tail hkeeps hnext)⟩

/-- The example with the counter at the last id from the start. -/
def lastIdConfig : GenesisConfig ℕ :=
  { exampleConfig with depositLoan := { exampleConfig.depositLoan with nextLoanId := -1 } }

/-- The genesis state of that example. -/
def lastIdState : RuntimeState ℕ := lastIdConfig.build.get (by decide +kernel)

/-- One loan is granted: its id is not below the counter. -/
theorem loans_not_indexed : ¬∀ (config : GenesisConfig ℕ) (s₀ : RuntimeState ℕ),
    config.build = some s₀ → ∀ is : List (Step ℕ), (∀ i ∈ is, i.isDepositLoan = true) →
      is.length < 2 ^ 64 → ∀ s, run next is s₀ = some s →
        ∀ loanId, s.saving.loans.containsKey loanId = true → loanId < s.saving.nextLoanId := by
  intro h
  obtain ⟨s, hrun, hfound, hlt⟩ := exists_of_any
    (p := fun s => s.saving.loans.containsKey (-1) = true ∧ ¬(-1 : LoanId) < s.saving.nextLoanId)
    (o := run next [signedCall 5 (.applyLoan 1 0)] lastIdState) (by decide +kernel)
  exact hlt (h lastIdConfig lastIdState (Option.some_get _).symm _ (by decide) (by decide) s hrun
    (-1) hfound)

end MoneyPool
