import MoneyPool.LoanBook

/-!
# The loans in liquidation

That a loan is in liquidation is written down twice, in its status and in the list
of ids. The two agree (`MoneyPool.liquidation_machine`) as long as no loan is
granted under an id that is still on the list, which an id counter that wraps ends
up doing. Off the list there is one way only, whatever the ids: the liquidation
account closes the loan.
-/

namespace MoneyPool

open Pallet Pallet.Exec DepositLoan RuntimeState

variable {AccountId : Type} [DecidableEq AccountId] [Inhabited AccountId]

/-- Whether a loan is marked as liquidating. -/
def DepositLoan.LoanHealth.isLiquidating : LoanHealth → Bool
  | .liquidating _ => true
  | _ => false

/-- **The list is the set of the loans marked as liquidating**, each of them once. -/
structure DepositLoan.Store.ListsLiquidating (t : DepositLoan.Store AccountId) : Prop where
  nodup : t.inLiquidation.Nodup
  mem_iff : ∀ loanId, loanId ∈ t.inLiquidation ↔
    ∃ loan, t.loans.get? loanId = some loan ∧ loan.status.isLiquidating = true

/-- **When a step keeps the list**: no loan is granted under an id that is on it. -/
def RuntimeState.KeepsList (s : RuntimeState AccountId) : Step AccountId → Prop
  | .extrinsic (.signed who) (.depositLoan (.applyLoan collateralAmount loanAmount)) =>
    s.saving.paused = false → s.CanApply .release who collateralAmount loanAmount →
      s.saving.nextLoanId ∉ s.saving.inLiquidation
  | _ => True

section Lists

variable {t t' : DepositLoan.Store AccountId} {loanId : LoanId} {loan : Loan AccountId}

omit [DecidableEq AccountId] [Inhabited AccountId] in
theorem DepositLoan.Store.ListsLiquidating.of_eq (h : t.ListsLiquidating)
    (hb : t'.loans = t.loans) (hl : t'.inLiquidation = t.inLiquidation) : t'.ListsLiquidating := by
  refine ⟨hl ▸ h.nodup, fun k => ?_⟩
  rw [hl, hb]
  exact h.mem_iff k

omit [DecidableEq AccountId] [Inhabited AccountId] in
/-- A loan may be written if its status says what the list says. -/
theorem DepositLoan.Store.ListsLiquidating.insert (h : t.ListsLiquidating)
    (hb : t'.loans = t.loans.insert loanId loan) (hl : t'.inLiquidation = t.inLiquidation)
    (hst : loan.status.isLiquidating = true ↔ loanId ∈ t.inLiquidation) : t'.ListsLiquidating := by
  refine ⟨hl ▸ h.nodup, fun k => ?_⟩
  rw [hl, hb, StorageMap.get?_insert]
  split
  · rename_i hk
    rw [hk, ← hst]
    refine ⟨fun h => ⟨loan, rfl, h⟩, ?_⟩
    rintro ⟨_, ⟨⟩, h⟩
    exact h
  · exact h.mem_iff k

omit [DecidableEq AccountId] [Inhabited AccountId] in
/-- A loan may be rewritten without touching its status. -/
theorem DepositLoan.Store.ListsLiquidating.change {loan' : Loan AccountId}
    (h : t.ListsLiquidating) (hold : t.loans.get? loanId = some loan)
    (hb : t'.loans = t.loans.insert loanId loan') (hl : t'.inLiquidation = t.inLiquidation)
    (hst : loan'.status = loan.status) : t'.ListsLiquidating := by
  refine h.insert hb hl ?_
  rw [h.mem_iff, hst]
  refine ⟨fun h => ⟨loan, hold, h⟩, ?_⟩
  rintro ⟨_, heq, h⟩
  cases hold.symm.trans heq
  exact h

omit [DecidableEq AccountId] [Inhabited AccountId] in
/-- A loan may be deleted with its id struck off the list. -/
theorem DepositLoan.Store.ListsLiquidating.remove (h : t.ListsLiquidating)
    (hb : t'.loans = t.loans.remove loanId)
    (hl : t'.inLiquidation = t.inLiquidation.filter (· ≠ loanId)) : t'.ListsLiquidating := by
  refine ⟨hl ▸ h.nodup.filter _, fun k => ?_⟩
  rw [hl, hb, StorageMap.get?_remove, List.mem_filter, decide_eq_true_eq]
  split
  · rename_i hk
    simp [hk]
  · rename_i hk
    rw [h.mem_iff, and_iff_left hk]

omit [DecidableEq AccountId] [Inhabited AccountId] in
/-- A loan may be put on the list and marked. -/
theorem DepositLoan.Store.ListsLiquidating.append (h : t.ListsLiquidating)
    (hnot : loanId ∉ t.inLiquidation) (hb : t'.loans = t.loans.insert loanId loan)
    (hl : t'.inLiquidation = t.inLiquidation ++ [loanId])
    (hst : loan.status.isLiquidating = true) : t'.ListsLiquidating := by
  refine ⟨?_, fun k => ?_⟩
  · rw [hl]
    exact h.nodup.append (List.nodup_singleton _) (List.disjoint_singleton.mpr hnot)
  · rw [hl, hb, StorageMap.get?_insert, List.mem_append, List.mem_singleton]
    split
    · rename_i hk
      exact ⟨fun _ => ⟨loan, rfl, hst⟩, fun _ => Or.inr hk⟩
    · rename_i hk
      rw [or_iff_left hk]
      exact h.mem_iff k

omit [DecidableEq AccountId] [Inhabited AccountId] in
theorem DepositLoan.Store.checkLoanInLiquidation_iff :
    t.checkLoanInLiquidation loanId = true ↔ loanId ∈ t.inLiquidation := by
  simp [DepositLoan.Store.checkLoanInLiquidation]

omit [DecidableEq AccountId] [Inhabited AccountId] in
/-- A setting leaves the list alone. -/
theorem setting_inLiquidation {call : DepositLoan.Call AccountId}
    {f : DepositLoan.Store AccountId → DepositLoan.Store AccountId} (h : call.setting = some f) :
    (f t).inLiquidation = t.inLiquidation := by
  cases call <;> cases h <;> rfl

end Lists

variable {s s' : RuntimeState AccountId} {i : Step AccountId} {ok : Bool}

/-! ### The list and the marks -/

theorem RuntimeState.HookStep.listsLiquidating (h : s.HookStep s') (hkeys : s.saving.KeysAreIds)
    (hlist : s.saving.ListsLiquidating) : s'.saving.ListsLiquidating := by
  cases h with
  | warned loanId ltv hfound hcalm =>
    refine hlist.insert (hkeys.warned_loans hfound ltv) rfl ?_
    rw [← Store.checkLoanInLiquidation_iff, hcalm]
    exact ⟨fun h => (Bool.false_ne_true h).elim, fun h => (Bool.false_ne_true h).elim⟩
  | liquidating loanId ltv hfound hcalm =>
    refine hlist.append ?_ rfl rfl rfl
    rw [← Store.checkLoanInLiquidation_iff, hcalm]
    exact Bool.false_ne_true
  | charged => exact hlist
  | accrued => exact hlist.of_eq rfl rfl

/-- **The list and the marks agree** after every step that keeps the list. -/
theorem Effect.listsLiquidating (h : Effect s i ok s') (hkeys : s.saving.KeysAreIds)
    (hlist : s.saving.ListsLiquidating) (hi : s.KeepsList i) : s'.saving.ListsLiquidating := by
  cases h with
  | unchanged => exact hlist
  | timed => exact hlist
  | oracleCall => exact hlist
  | aggregated => exact hlist
  | ledgerCall => exact hlist
  | ledgerFailed => exact hlist
  | set call f hf => exact hlist.of_eq (setting_loans hf) (setting_inLiquidation hf)
  | staked => exact hlist.of_eq rfl rfl
  | redeemed who assetId amount hi hopen hcan hred =>
    obtain ⟨u, m, d, heq⟩ := hred.saving_eq
    exact hlist.of_eq (by rw [heq]) (by rw [heq]; rfl)
  | granted who collateralAmount loanAmount hopen hcan =>
    refine hlist.insert rfl rfl ⟨fun h => (Bool.false_ne_true h).elim, fun h => ?_⟩
    exact absurd h (hi hopen hcan)
  | taken => exact hlist.of_eq rfl rfl
  | repaid who loanId hopen htry hret =>
    have hnot : loanId ∉ s.saving.inLiquidation := by
      rw [← Store.checkLoanInLiquidation_iff, htry.notLiquidating]
      exact Bool.false_ne_true
    refine hlist.remove rfl ?_
    rw [hkeys.get htry.found]
    have hall : ∀ k ∈ s.saving.inLiquidation, decide (k ≠ loanId) = true := fun k hk =>
      decide_eq_true fun heq => hnot (heq ▸ hk)
    exact (List.filter_eq_self.mpr hall).symm
  | repayReverted who loanId assets hopen htry =>
    refine hlist.of_eq ?_ rfl
    rw [RuntimeState.repayReverted, hkeys.get htry.found,
      StorageMap.insert_of_get? (StorageMap.get?_of_containsKey htry.found)]
  | liquidated => exact hlist.remove rfl rfl
  | notLiquidated => exact hlist
  | collateralAdded who loanId amount hopen hfound =>
    have hget := StorageMap.get?_of_containsKey hfound
    rw [← hkeys.get hfound] at hget
    refine hlist.change hget rfl rfl ?_
    rw [hkeys.get hfound]
  | drawn who loanId amount hopen hcan =>
    exact hlist.change (StorageMap.get?_of_containsKey hcan.found) rfl rfl rfl
  | hook height hsteps =>
    -- the ids stay keys along the steps of the hook
    suffices hboth : s'.saving.KeysAreIds ∧ s'.saving.ListsLiquidating from hboth.2
    induction hsteps with
    | refl => exact ⟨hkeys, hlist⟩
    | tail _ hstep ih => exact ⟨hstep.keysAreIds ih.1, hstep.listsLiquidating ih.1 ih.2⟩

/-! ### The way off the list -/

omit [DecidableEq AccountId] in
/-- A step of a hook takes no id off the list. -/
theorem RuntimeState.HookStep.mem_inLiquidation [DecidableEq AccountId] (h : s.HookStep s')
    {loanId : LoanId} (hmem : loanId ∈ s.saving.inLiquidation) :
    loanId ∈ s'.saving.inLiquidation := by
  cases h with
  | warned => exact hmem
  | liquidating => exact List.mem_append.mpr (Or.inl hmem)
  | charged => exact hmem
  | accrued => exact hmem

/-- **Off the list there is one way**: the liquidation account closes the loan, and
succeeds. -/
theorem Effect.leaves (h : Effect s i ok s') (hkeys : s.saving.KeysAreIds) {loanId : LoanId}
    (hmem : loanId ∈ s.saving.inLiquidation) (hleft : loanId ∉ s'.saving.inLiquidation) :
    ok = true ∧ ∃ auctionBalance, i = .extrinsic (.signed s.saving.liquidationAccount)
      (.depositLoan (.markLiquidated loanId auctionBalance)) := by
  cases h with
  | set call f hf =>
    refine absurd ?_ hleft
    rw [withSaving, setting_inLiquidation hf]
    exact hmem
  | redeemed who assetId amount hi hopen hcan hred =>
    obtain ⟨u, m, d, heq⟩ := hred.saving_eq
    refine absurd ?_ hleft
    rw [heq]
    exact hmem
  | liquidated who id auctionBalance hopen hwho hfound htry hset =>
    have hid : loanId = id := by
      by_contra hne
      refine hleft (List.mem_filter.mpr ⟨hmem, decide_eq_true ?_⟩)
      rwa [hkeys.get hfound]
    exact ⟨rfl, auctionBalance, by rw [hid, hwho]⟩
  | hook height hsteps =>
    refine absurd ?_ hleft
    induction hsteps with
    | refl => exact hmem
    | tail _ hstep ih =>
      have hbefore := ih fun h => hleft (hstep.mem_inLiquidation h)
      exact hstep.mem_inLiquidation hbefore
  | _ => exact absurd hmem hleft

/-- At the start no loan is in liquidation. -/
theorem listsLiquidating_of_build {config : GenesisConfig AccountId} {s₀ : RuntimeState AccountId}
    (hgenesis : config.build = some s₀) : s₀.saving.ListsLiquidating := by
  rw [config.saving_of_build hgenesis]
  refine ⟨List.nodup_nil, fun k => ⟨fun h => (List.not_mem_nil h).elim, ?_⟩⟩
  rintro ⟨_, h, _⟩
  exact (Option.some_ne_none _ h.symm).elim

/-- **The liquidation state machine.** In every state reached by steps that keep the
list, the list has no duplicates and is the set of the loans marked as liquidating.
And in every run at all, an id leaves the list only when the liquidation account
closes the loan. -/
theorem liquidation_machine {config : GenesisConfig AccountId} {s₀ : RuntimeState AccountId}
    (hgenesis : config.build = some s₀) :
    (∀ s, Reach next (fun s i => s.KeepsList i) s₀ s →
      s.saving.inLiquidation.Nodup ∧
        ∀ loanId, loanId ∈ s.saving.inLiquidation ↔ ∃ key loan,
          s.saving.loans.get? key = some loan ∧ loan.id = loanId ∧
            loan.status.isLiquidating = true) ∧
    ∀ s, Reachable next s₀ s → ∀ i s' loanId, next i s = some s' →
      loanId ∈ s.saving.inLiquidation → loanId ∉ s'.saving.inLiquidation →
        (∃ auctionBalance, i = .extrinsic (.signed s.saving.liquidationAccount)
          (.depositLoan (.markLiquidated loanId auctionBalance))) ∧
        (i.exec : Prog .release AccountId Unit) s = .ok () s' := by
  have hstart := listsLiquidating_of_build hgenesis
  refine ⟨fun s hreach => ?_, fun s hreach i s' loanId hnext hmem hleft => ?_⟩
  · have hkeys := keysAreIds_of_reach hgenesis hreach
    have hlist : s.saving.ListsLiquidating := by
      refine invariant_of_reach (I := fun s => s.saving.ListsLiquidating) hgenesis hreach hstart ?_
      intro s i ok s' heff _ hkeys hi hlist
      exact heff.listsLiquidating hkeys hlist hi
    refine ⟨hlist.nodup, fun loanId => (hlist.mem_iff loanId).trans ?_⟩
    constructor
    · rintro ⟨loan, hget, hst⟩
      exact ⟨loanId, loan, hget, hkeys _ _ hget, hst⟩
    · rintro ⟨key, loan, hget, rfl, hst⟩
      rw [hkeys _ _ hget]
      exact ⟨loan, hget, hst⟩
  · have hkeys := keysAreIds_of_reach hgenesis hreach
    rcases next_eq_some hnext with hx | ⟨e, hx⟩ | rfl
    -- a loan leaves the list only if the step succeeds
    · exact ⟨((ok_effect hx).leaves hkeys hmem hleft).2, hx⟩
    · have herr := ((wp_of_err hx).mp exec_effect).leaves hkeys hmem hleft
      exact absurd herr.1 Bool.false_ne_true
    · exact absurd hmem hleft

theorem liquidation_machine_example :
    ∃ s, run next [signedCall 5 (.applyLoan 2 100), .onInitialize 1] exampleState = some s ∧
      s.saving.inLiquidation = [0] ∧ s.saving.inLiquidation.Nodup ∧
        ∀ loanId, loanId ∈ s.saving.inLiquidation ↔ ∃ key loan,
          s.saving.loans.get? key = some loan ∧ loan.id = loanId ∧
            loan.status.isLiquidating = true := by
  obtain ⟨s, hrun, hlist⟩ := exists_of_any (p := fun s => s.saving.inLiquidation = [0])
    (o := run next [signedCall 5 (.applyLoan 2 100), .onInitialize 1] exampleState)
    (by decide +kernel)
  obtain ⟨s₁, hfirst, hrest⟩ := Option.bind_eq_some_iff.mp hrun
  obtain ⟨_, hsecond, ⟨⟩⟩ := Option.bind_eq_some_iff.mp hrest
  have hfresh : exampleState.KeepsList (signedCall 5 (.applyLoan 2 100)) :=
    fun _ _ => by decide +kernel
  have hhook : s₁.KeepsList (.onInitialize 1) := trivial
  exact ⟨s, hrun, hlist, (liquidation_machine exampleConfig_build).1 s
    ((Reach.refl.tail hfresh hfirst).tail hhook hsecond)⟩

/-! ### The counter of ids wraps -/

/-- The example after `n` loan ids have been used up, with loan 0 in liquidation and
enough collateral for as many loans as there are ids. -/
structure IdsUsed (n : ℕ) (s : RuntimeState ℕ) : Prop where
  notPaused : s.saving.paused = false
  loanCap : s.saving.loanCap = none
  minimumCollateral : s.saving.minimumCollateral = 0
  collateralAssetId : s.saving.collateralAssetId = 1
  pawnShop : s.saving.pawnShop = 2
  price : s.btcPrice = 100
  nextLoanId : s.saving.nextLoanId = BitVec.ofNat 64 n
  covered : 2 ^ 65 ≤ (s.assets.free 1 5).toNat + n
  other : 1 ≤ (s.assets.free 1 6).toNat
  listed : s.saving.inLiquidation = [0]
  first : ∃ loan, s.saving.loans.get? 0 = some loan ∧ loan.who = 5

/-- An application for what one unit of collateral is worth. -/
def smallLoan : Step ℕ := signedCall 5 (.applyLoan 1 0)

section IdsUsed

variable {n : ℕ} {s : RuntimeState ℕ}

/-- Whoever has a unit of collateral may apply. -/
theorem IdsUsed.canApply (h : IdsUsed n s) {who : ℕ} (hwho : 1 ≤ (s.assets.free 1 who).toNat) :
    s.CanApply .release who 1 0 := by
  have hterms : (s.terms 1 0).collateralAmount = 1 := rfl
  have hle : ∀ x : Balance, 0 ≤ x := fun x => by simp [BitVec.le_def]
  have hprice : s.price ≠ 0 := by
    rw [RuntimeState.price, h.price]
    decide
  exact
    { funded := hle _
      capped := fun hcap => by simp [h.loanCap] at hcap
      granted :=
        { asked := fun hz => absurd hz.1 (by decide)
          byLoan := fun hz => absurd hz (by decide)
          byCollateral := fun _ _ hp => absurd hp Bool.false_ne_true
          both := fun _ hz => absurd rfl hz }
      minimum := by
        rw [h.minimumCollateral]
        exact hle _
      covered := by
        rw [hterms, h.collateralAssetId]
        exact BitVec.le_def.mpr hwho
      price := hprice
      available := fun hp => absurd hp Bool.false_ne_true
      paid := hle _
      totalLoan := fun hp => absurd hp Bool.false_ne_true
      totalCollateral := fun hp => absurd hp Bool.false_ne_true }

/-- **One more id is used up.** -/
theorem IdsUsed.next (h : IdsUsed n s) (hpos : 0 < n) (hn : n < 2 ^ 64) :
    next smallLoan s = some (s.withLoan 5 1 0) ∧ IdsUsed (n + 1) (s.withLoan 5 1 0) := by
  have hterms : (s.terms 1 0).collateralAmount = 1 := rfl
  have hone : 1 ≤ (s.assets.free 1 5).toNat := by
    have := h.covered
    omega
  refine ⟨next_applyLoan h.notPaused (h.canApply hone), ?_⟩
  have hfree : ∀ who, (s.withLoan 5 1 0).assets.free 1 who =
      (s.assets.moved 1 5 2 1).free 1 who := by
    intro who
    simp only [withLoan, collateralTaken, GenericAsset.Store.free_moved_zero, hterms,
      h.collateralAssetId, h.pawnShop]
  have hfree5 : (s.withLoan 5 1 0).assets.free 1 5 = s.assets.free 1 5 - 1 := by
    rw [hfree, GenericAsset.Store.free_moved_from (by decide)]
  have hfree6 : (s.withLoan 5 1 0).assets.free 1 6 = s.assets.free 1 6 := by
    rw [hfree, GenericAsset.Store.free_moved_of_ne (by decide) (by decide)]
  -- loan 0 stays as long as the counter has not come round
  have hne : (0 : LoanId) ≠ s.saving.nextLoanId := by
    rw [h.nextLoanId]
    intro heq
    have := congrArg BitVec.toNat heq
    rw [BitVec.toNat_ofNat, Nat.mod_eq_of_lt hn] at this
    exact hpos.ne this
  exact
    { notPaused := h.notPaused
      loanCap := h.loanCap
      minimumCollateral := h.minimumCollateral
      collateralAssetId := h.collateralAssetId
      pawnShop := h.pawnShop
      price := (btcPrice_withLoan ..).trans h.price
      nextLoanId := by
        simp only [withLoan, collateralTaken, h.nextLoanId]
        rw [BitVec.ofNat_add]
        rfl
      covered := by
        have hcov := h.covered
        have hle : (1 : Balance) ≤ s.assets.free 1 5 := BitVec.le_def.mpr hone
        have hsub : (s.assets.free 1 5 - 1).toNat = (s.assets.free 1 5).toNat - 1 :=
          BitVec.toNat_sub_of_le hle
        rw [hfree5, hsub]
        omega
      other := hfree6 ▸ h.other
      listed := h.listed
      first := by
        obtain ⟨loan, hget, hwho⟩ := h.first
        refine ⟨loan, ?_, hwho⟩
        simp only [withLoan, collateralTaken, StorageMap.get?_insert, if_neg hne, hget] }

/-- **As many ids as there are** can be used up. -/
theorem IdsUsed.run (m : ℕ) {n : ℕ} {s : RuntimeState ℕ} (h : IdsUsed n s) (hpos : 0 < n)
    (hm : n + m ≤ 2 ^ 64) :
    ∃ s', run MoneyPool.next (List.replicate m smallLoan) s = some s' ∧ IdsUsed (n + m) s' := by
  induction m generalizing n s with
  | zero => exact ⟨s, rfl, h⟩
  | succ m ih =>
    obtain ⟨hnext, hused⟩ := h.next hpos (by omega)
    obtain ⟨s', hrun, hs'⟩ := ih hused (by omega) (by omega)
    refine ⟨s', ?_, ?_⟩
    · rw [List.replicate_succ, Pallet.run, hnext]
      exact hrun
    · rwa [Nat.add_assoc, Nat.add_comm 1 m] at hs'

end IdsUsed

/-- Loan 0 goes into liquidation and the other ids are used up. -/
theorem exists_idsUsed : ∃ s, Reach next (fun _ i => i.isDepositLoan = true) exampleState s ∧
    IdsUsed (2 ^ 64) s := by
  obtain ⟨s₁, hrun₁, h1, h2, h3, h4, h5, h6, h7, h8, h9, h10, h11⟩ := exists_of_any
    (p := fun s : RuntimeState ℕ => s.saving.paused = false ∧ s.saving.loanCap = none ∧
      s.saving.minimumCollateral = 0 ∧ s.saving.collateralAssetId = 1 ∧ s.saving.pawnShop = 2 ∧
      s.btcPrice = 100 ∧ s.saving.nextLoanId = BitVec.ofNat 64 1 ∧
      2 ^ 65 ≤ (s.assets.free 1 5).toNat + 1 ∧ 1 ≤ (s.assets.free 1 6).toNat ∧
      s.saving.inLiquidation = [0] ∧
      (s.saving.loans.get? 0).map Loan.who = some 5)
    (o := run next [signedCall 5 (.applyLoan 2 100), .onInitialize 1] exampleState)
    (by decide +kernel)
  have hused₁ : IdsUsed 1 s₁ :=
    ⟨h1, h2, h3, h4, h5, h6, h7, h8, h9, h10, Option.map_eq_some_iff.mp h11⟩
  obtain ⟨s₂, hrun₂, hused₂⟩ := hused₁.run (2 ^ 64 - 1) (by decide) (by norm_num)
  have hcalls : ∀ i ∈ List.replicate (2 ^ 64 - 1) smallLoan, i.isDepositLoan = true := by
    intro i hi
    rw [List.eq_of_mem_replicate hi]
    rfl
  exact ⟨s₂, (reach_of_run hrun₁ (by decide)).trans (reach_of_run hrun₂ hcalls), hused₂⟩

/-- Loan 0 goes into liquidation, the other ids are used up, and a new loan 0 is
granted: it is on the list, and it is well. -/
theorem liquidation_list_wrong : ¬∀ s,
    Reach next (fun _ i => i.isDepositLoan = true) exampleState s →
    s.saving.inLiquidation.Nodup ∧
      ∀ loanId, loanId ∈ s.saving.inLiquidation ↔ ∃ key loan,
        s.saving.loans.get? key = some loan ∧ loan.id = loanId ∧
          loan.status.isLiquidating = true := by
  intro h
  obtain ⟨s, hreach, hused⟩ := exists_idsUsed
  have hcovered : 1 ≤ (s.assets.free 1 5).toNat := by
    have := hused.covered
    omega
  have hnext := next_applyLoan hused.notPaused (hused.canApply hcovered)
  have hreach' : Reach next (fun _ i => i.isDepositLoan = true) exampleState (s.withLoan 5 1 0) :=
    hreach.tail rfl hnext
  -- id 0 is on the list, but every loan with that id is well
  have hzero : s.saving.nextLoanId = 0 := hused.nextLoanId.trans (by decide)
  have hlisted : (0 : LoanId) ∈ (s.withLoan 5 1 0).saving.inLiquidation := by
    change (0 : LoanId) ∈ s.saving.inLiquidation
    rw [hused.listed]
    exact List.mem_singleton_self 0
  obtain ⟨key, loan, hget, hid, hst⟩ := ((h _ hreach').2 0).mp hlisted
  have hkey : key = 0 :=
    (keysAreIds_of_reach exampleConfig_build hreach' key loan hget).symm.trans hid
  have hnew := get?_withLoan (s := s) 5 1 0
  rw [hzero, ← hkey] at hnew
  cases hnew.symm.trans hget
  exact Bool.false_ne_true hst

end MoneyPool
