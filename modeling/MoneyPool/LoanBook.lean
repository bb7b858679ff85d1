import MoneyPool.Effect

/-!
# The book of loans

Every loan is stored under its own id, in every run. The two counters of the
pallet, the total of the loans and the total of their collateral, are meant to be
sums over the book; `MoneyPool.counters_match` says that they are as long as every
step meets `MoneyPool.RuntimeState.KeepsCounters`, which names the four ways in
which the pallet loses track: a liquidation leaves the counters alone, a reverted
repayment adds to them what they already contain, an id is used a second time, and
a counter wraps.
-/

namespace MoneyPool

open Pallet Pallet.Exec DepositLoan RuntimeState

variable {AccountId : Type} [DecidableEq AccountId] [Inhabited AccountId]

/-! ### Ids -/

/-- Every loan is stored under its own id. -/
def DepositLoan.Store.KeysAreIds (t : DepositLoan.Store AccountId) : Prop :=
  ∀ loanId loan, t.loans.get? loanId = some loan → loan.id = loanId

section Ids

variable {t t' : DepositLoan.Store AccountId} {loanId : LoanId} {loan : Loan AccountId}

omit [DecidableEq AccountId] in
theorem DepositLoan.Store.KeysAreIds.get (h : t.KeysAreIds)
    (hfound : t.loans.containsKey loanId = true) : (t.loans.get loanId).id = loanId :=
  h _ _ (StorageMap.get?_of_containsKey hfound)

omit [DecidableEq AccountId] in
/-- A warning is written to the loan that it is about. -/
theorem DepositLoan.Store.KeysAreIds.warned_loans (h : t.KeysAreIds)
    (hfound : t.loans.containsKey loanId = true) (ltv : LTV) :
    (t.warned (t.loans.get loanId).id ltv).loans =
      t.loans.insert loanId { t.loans.get loanId with status := .warning ltv } := by
  rw [warned, StorageMap.mutate, h.get hfound]

omit [DecidableEq AccountId] [Inhabited AccountId] in
theorem DepositLoan.Store.KeysAreIds.insert (h : t.KeysAreIds)
    (ht : t'.loans = t.loans.insert loanId loan) (hid : loan.id = loanId) : t'.KeysAreIds := by
  intro k l hl
  rw [ht, StorageMap.get?_insert] at hl
  split at hl
  · cases hl
    rename_i hk
    rw [hid, hk]
  · exact h k l hl

omit [DecidableEq AccountId] [Inhabited AccountId] in
theorem DepositLoan.Store.KeysAreIds.remove (h : t.KeysAreIds)
    (ht : t'.loans = t.loans.remove loanId) : t'.KeysAreIds := by
  intro k l hl
  rw [ht, StorageMap.get?_remove] at hl
  split at hl
  · cases hl
  · exact h k l hl

omit [DecidableEq AccountId] [Inhabited AccountId] in
theorem DepositLoan.Store.KeysAreIds.of_eq (h : t.KeysAreIds) (ht : t'.loans = t.loans) :
    t'.KeysAreIds := by
  intro k l hl
  rw [ht] at hl
  exact h k l hl

omit [DecidableEq AccountId] [Inhabited AccountId] in
/-- A setting leaves the book alone. -/
theorem setting_loans {call : DepositLoan.Call AccountId}
    {f : DepositLoan.Store AccountId → DepositLoan.Store AccountId} (h : call.setting = some f) :
    (f t).loans = t.loans := by
  cases call <;> cases h <;> rfl

end Ids

variable {s s' : RuntimeState AccountId} {i : Step AccountId} {ok : Bool}

theorem RuntimeState.HookStep.keysAreIds (h : s.HookStep s') (hkeys : s.saving.KeysAreIds) :
    s'.saving.KeysAreIds := by
  cases h with
  | warned loanId ltv hfound =>
    refine hkeys.insert rfl ?_
    rw [hkeys.get hfound]
    exact hkeys.get hfound
  | liquidating loanId ltv hfound => exact hkeys.insert rfl (hkeys.get hfound)
  | charged => exact hkeys
  | accrued => exact hkeys.of_eq rfl

/-- **Keys are ids**, after every step. -/
theorem Effect.keysAreIds (h : Effect s i ok s') (hkeys : s.saving.KeysAreIds) :
    s'.saving.KeysAreIds := by
  cases h with
  | unchanged => exact hkeys
  | timed => exact hkeys
  | oracleCall => exact hkeys
  | aggregated => exact hkeys
  | ledgerCall => exact hkeys
  | ledgerFailed => exact hkeys
  | set call f hf => exact hkeys.of_eq (setting_loans hf)
  | staked => exact hkeys.of_eq rfl
  | redeemed who assetId amount hi hopen hcan hred =>
    obtain ⟨u, m, d, heq⟩ := hred.saving_eq
    exact hkeys.of_eq (by rw [heq])
  | granted => exact hkeys.insert rfl rfl
  | taken => exact hkeys.of_eq rfl
  | repaid => exact hkeys.remove rfl
  | repayReverted => exact hkeys.insert rfl rfl
  | liquidated => exact hkeys.remove rfl
  | notLiquidated => exact hkeys
  | collateralAdded who loanId amount hopen hfound =>
    refine hkeys.insert rfl ?_
    rw [hkeys.get hfound]
    exact hkeys.get hfound
  | drawn who loanId amount hopen hcan => exact hkeys.insert rfl (hkeys.get hcan.found)
  | hook height hsteps =>
    induction hsteps with
    | refl => exact hkeys
    | tail _ hstep ih => exact hstep.keysAreIds ih

/-! ### The counters -/

namespace DepositLoan.Store

variable (t : DepositLoan.Store AccountId)

/-- What the loans in the book sum up to. -/
def loanSum : ℕ := t.loans.total fun _ loan => loan.loanBalanceTotal.toNat

/-- What the original collateral of the loans in the book sums up to. -/
def collateralSum : ℕ := t.loans.total fun _ loan => loan.collateralBalanceOriginal.toNat

/-- **The counters are the sums over the book.** -/
structure CountersMatch : Prop where
  loan : t.totalLoan.toNat = t.loanSum
  collateral : t.totalCollateral.toNat = t.collateralSum

end DepositLoan.Store

/-- **When a step keeps track of the loans.** -/
def RuntimeState.KeepsCounters (s : RuntimeState AccountId) : Step AccountId → Prop
  | .extrinsic (.signed who) (.depositLoan (.applyLoan collateralAmount loanAmount)) =>
    s.saving.paused = false → s.CanApply .release who collateralAmount loanAmount →
      s.saving.loans.containsKey s.saving.nextLoanId = false ∧
        s.saving.totalLoan.toNat +
          (s.terms collateralAmount loanAmount).loanAmount.toNat < 2 ^ 128 ∧
        s.saving.totalCollateral.toNat +
          (s.terms collateralAmount loanAmount).collateralAmount.toNat < 2 ^ 128
  | .extrinsic (.signed who) (.depositLoan (.repayLoan loanId)) =>
    let loan := s.saving.loans.get loanId
    s.saving.paused = false → s.CanTryRepay who loan loanId → s.CanReturn who loan ∨
      loan.loanBalanceTotal = 0 ∧ loan.collateralBalanceAvailable = 0
  | .extrinsic (.signed who) (.depositLoan (.markLiquidated loanId auctionBalance)) =>
    let loan := s.saving.loans.get loanId
    s.saving.paused = false → who = s.saving.liquidationAccount →
      s.saving.loans.containsKey loanId = true → s.CanTryLiquidate loan who auctionBalance →
        s.CanSettle loan who auctionBalance →
          loan.loanBalanceTotal = 0 ∧ loan.collateralBalanceOriginal = 0
  | .extrinsic (.signed who) (.depositLoan (.addCollateral loanId amount)) =>
    s.saving.paused = false → s.saving.loans.containsKey loanId = true →
      who = (s.saving.loans.get loanId).who →
        amount ≤ s.assets.free s.saving.collectionAssetId who →
          s.saving.totalCollateral.toNat + amount.toNat < 2 ^ 128
  | .extrinsic (.signed who) (.depositLoan (.draw loanId amount)) =>
    s.saving.paused = false → s.CanDraw who loanId amount →
      s.saving.totalLoan.toNat + amount.toNat < 2 ^ 128
  | _ => True

section Counters

variable {t t' : DepositLoan.Store AccountId} {loanId : LoanId} {loan : Loan AccountId}

omit [DecidableEq AccountId] [Inhabited AccountId] in
/-- The counters match if neither they nor the book have changed. -/
theorem DepositLoan.Store.CountersMatch.of_eq (h : t.CountersMatch) (hb : t'.loans = t.loans)
    (hl : t'.totalLoan = t.totalLoan) (hc : t'.totalCollateral = t.totalCollateral) :
    t'.CountersMatch := by
  refine ⟨?_, ?_⟩
  · rw [hl, h.loan, DepositLoan.Store.loanSum, DepositLoan.Store.loanSum, hb]
  · rw [hc, h.collateral, DepositLoan.Store.collateralSum, DepositLoan.Store.collateralSum, hb]

omit [DecidableEq AccountId] [Inhabited AccountId] in
/-- **A new loan** counts with its balance and its collateral. -/
theorem DepositLoan.Store.CountersMatch.create (h : t.CountersMatch)
    (hnew : t.loans.containsKey loanId = false) (hb : t'.loans = t.loans.insert loanId loan)
    (hl : t'.totalLoan.toNat = t.totalLoan.toNat + loan.loanBalanceTotal.toNat)
    (hc : t'.totalCollateral.toNat =
      t.totalCollateral.toNat + loan.collateralBalanceOriginal.toNat) :
    t'.CountersMatch := by
  have hnone := StorageMap.containsKey_eq_false.mp hnew
  refine ⟨?_, ?_⟩
  · rw [hl, h.loan, DepositLoan.Store.loanSum, DepositLoan.Store.loanSum, hb,
      StorageMap.total_insert_new hnone]
  · rw [hc, h.collateral, DepositLoan.Store.collateralSum, DepositLoan.Store.collateralSum, hb,
      StorageMap.total_insert_new hnone]

omit [DecidableEq AccountId] [Inhabited AccountId] in
/-- **A removed loan** no longer counts. -/
theorem DepositLoan.Store.CountersMatch.delete (h : t.CountersMatch)
    (hold : t.loans.get? loanId = some loan) (hb : t'.loans = t.loans.remove loanId)
    (hl : t'.totalLoan.toNat + loan.loanBalanceTotal.toNat = t.totalLoan.toNat)
    (hc : t'.totalCollateral.toNat + loan.collateralBalanceOriginal.toNat =
      t.totalCollateral.toNat) :
    t'.CountersMatch := by
  refine ⟨Nat.add_right_cancel (m := loan.loanBalanceTotal.toNat) ?_,
    Nat.add_right_cancel (m := loan.collateralBalanceOriginal.toNat) ?_⟩
  · rw [hl, h.loan, DepositLoan.Store.loanSum, DepositLoan.Store.loanSum, hb,
      StorageMap.total_remove_old hold]
  · rw [hc, h.collateral, DepositLoan.Store.collateralSum, DepositLoan.Store.collateralSum, hb,
      StorageMap.total_remove_old hold]

omit [DecidableEq AccountId] [Inhabited AccountId] in
/-- **A changed loan** counts with its new balance and collateral. -/
theorem DepositLoan.Store.CountersMatch.change {loan' : Loan AccountId} (h : t.CountersMatch)
    (hold : t.loans.get? loanId = some loan) (hb : t'.loans = t.loans.insert loanId loan')
    (hl : t'.totalLoan.toNat + loan.loanBalanceTotal.toNat =
      t.totalLoan.toNat + loan'.loanBalanceTotal.toNat)
    (hc : t'.totalCollateral.toNat + loan.collateralBalanceOriginal.toNat =
      t.totalCollateral.toNat + loan'.collateralBalanceOriginal.toNat) :
    t'.CountersMatch := by
  refine ⟨Nat.add_right_cancel (m := loan.loanBalanceTotal.toNat) ?_,
    Nat.add_right_cancel (m := loan.collateralBalanceOriginal.toNat) ?_⟩
  · rw [hl, h.loan, DepositLoan.Store.loanSum, DepositLoan.Store.loanSum, hb,
      StorageMap.total_insert_old hold]
  · rw [hc, h.collateral, DepositLoan.Store.collateralSum, DepositLoan.Store.collateralSum, hb,
      StorageMap.total_insert_old hold]

omit [DecidableEq AccountId] [Inhabited AccountId] in
/-- A loan in the book counts with no more than the counters. -/
theorem DepositLoan.Store.CountersMatch.le (h : t.CountersMatch)
    (hold : t.loans.get? loanId = some loan) :
    loan.loanBalanceTotal.toNat ≤ t.totalLoan.toNat ∧
      loan.collateralBalanceOriginal.toNat ≤ t.totalCollateral.toNat := by
  have hl := StorageMap.weight_le_total
    (f := fun _ (loan : Loan AccountId) => loan.loanBalanceTotal.toNat) t.loans loanId
  have hc := StorageMap.weight_le_total
    (f := fun _ (loan : Loan AccountId) => loan.collateralBalanceOriginal.toNat) t.loans loanId
  rw [StorageMap.weight_of_get? hold] at hl hc
  rw [h.loan, h.collateral]
  exact ⟨hl, hc⟩

end Counters

theorem RuntimeState.HookStep.countersMatch (h : s.HookStep s') (hkeys : s.saving.KeysAreIds)
    (hm : s.saving.CountersMatch) : s'.saving.CountersMatch := by
  cases h with
  | warned loanId ltv hfound =>
    exact hm.change (StorageMap.get?_of_containsKey hfound) (hkeys.warned_loans hfound ltv) rfl rfl
  | liquidating loanId ltv hfound =>
    exact hm.change (StorageMap.get?_of_containsKey hfound) rfl rfl rfl
  | charged => exact hm
  | accrued => exact hm.of_eq rfl rfl rfl

/-- **The counters match** after every step that keeps track of the loans. -/
theorem Effect.countersMatch (h : Effect s i ok s') (hkeys : s.saving.KeysAreIds)
    (hm : s.saving.CountersMatch) (hi : s.KeepsCounters i) : s'.saving.CountersMatch := by
  cases h with
  | unchanged => exact hm
  | timed => exact hm
  | oracleCall => exact hm
  | aggregated => exact hm
  | ledgerCall => exact hm
  | ledgerFailed => exact hm
  | set call f hf =>
    have hsame : (f s.saving).totalLoan = s.saving.totalLoan ∧
        (f s.saving).totalCollateral = s.saving.totalCollateral := by
      cases call <;> cases hf <;> exact ⟨rfl, rfl⟩
    exact hm.of_eq (setting_loans hf) hsame.1 hsame.2
  | staked => exact hm.of_eq rfl rfl rfl
  | redeemed who assetId amount hi hopen hcan hred =>
    obtain ⟨u, m, d, heq⟩ := hred.saving_eq
    exact hm.of_eq (by rw [heq]) (by rw [heq]) (by rw [heq])
  | granted who collateralAmount loanAmount hopen hcan =>
    obtain ⟨hnew, hl, hc⟩ := hi hopen hcan
    exact hm.create hnew rfl (BitVec.toNat_add_of_lt hl) (BitVec.toNat_add_of_lt hc)
  | taken => exact hm.of_eq rfl rfl rfl
  | repaid who loanId hopen htry hret =>
    have hget := StorageMap.get?_of_containsKey htry.found
    have hle := hm.le hget
    have hid := hkeys.get htry.found
    refine hm.delete hget ?_ ?_ ?_
    · rw [RuntimeState.repaid, hid]
    · simp only [RuntimeState.repaid, BitVec.toNat_sub_of_le (BitVec.le_def.mpr hle.1)]
      exact Nat.sub_add_cancel hle.1
    · simp only [RuntimeState.repaid, BitVec.toNat_sub_of_le (BitVec.le_def.mpr hle.2)]
      exact Nat.sub_add_cancel hle.2
  | repayReverted who loanId assets hopen htry hret =>
    have hget := StorageMap.get?_of_containsKey htry.found
    have hid := hkeys.get htry.found
    obtain ⟨hl, hc⟩ := (hi hopen htry).resolve_left hret
    refine hm.of_eq ?_ ?_ ?_
    · rw [RuntimeState.repayReverted, hid, StorageMap.insert_of_get? hget]
    · rw [RuntimeState.repayReverted, hl, add_zero]
    · rw [RuntimeState.repayReverted, hc, add_zero]
  | liquidated who loanId auctionBalance hopen hwho hfound htry hset =>
    have hget := StorageMap.get?_of_containsKey hfound
    have hid := hkeys.get hfound
    obtain ⟨hl, hc⟩ := hi hopen hwho hfound htry hset
    refine hm.delete hget ?_ ?_ ?_
    · rw [RuntimeState.liquidated, hid]
    · rw [hl]
      rfl
    · rw [hc]
      rfl
  | notLiquidated => exact hm
  | collateralAdded who loanId amount hopen hfound howner hcov =>
    have hget := StorageMap.get?_of_containsKey hfound
    have hid := hkeys.get hfound
    have hfit := hi hopen hfound howner hcov
    have hle := (hm.le hget).2
    have hb : (s.collateralAdded (s.saving.loans.get loanId) who amount).saving.loans =
        s.saving.loans.insert loanId { s.saving.loans.get loanId with
          collateralBalanceOriginal :=
            (s.saving.loans.get loanId).collateralBalanceOriginal + amount
          collateralBalanceAvailable :=
            (s.saving.loans.get loanId).collateralBalanceAvailable + amount } := by
      rw [RuntimeState.collateralAdded, hid]
    refine hm.change hget hb rfl ?_
    simp only [RuntimeState.collateralAdded, BitVec.toNat_add_of_lt hfit]
    rw [BitVec.toNat_add_of_lt (by omega)]
    omega
  | drawn who loanId amount hopen hcan =>
    have hget := StorageMap.get?_of_containsKey hcan.found
    have hfit := hi hopen hcan
    have hle := (hm.le hget).1
    refine hm.change hget rfl ?_ rfl
    simp only [RuntimeState.drawn, BitVec.toNat_add_of_lt hfit]
    rw [BitVec.toNat_add_of_lt (by omega)]
    omega
  | hook height hsteps =>
    -- the ids stay keys along the steps of the hook
    suffices hboth : s'.saving.KeysAreIds ∧ s'.saving.CountersMatch from hboth.2
    induction hsteps with
    | refl => exact ⟨hkeys, hm⟩
    | tail _ hstep ih => exact ⟨hstep.keysAreIds ih.1, hstep.countersMatch ih.1 ih.2⟩

/-! ### Genesis -/

/-- **Keys are ids** in every reached state. -/
theorem keysAreIds_of_reach {config : GenesisConfig AccountId} {s₀ : RuntimeState AccountId}
    {c : RuntimeState AccountId → Step AccountId → Prop} (hgenesis : config.build = some s₀)
    (hreach : Reach next c s₀ s) : s.saving.KeysAreIds := by
  refine hreach.invariant (I := fun s => s.saving.KeysAreIds) ?_ ?_
  · rw [config.saving_of_build hgenesis]
    exact fun _ _ h => (Option.some_ne_none _ h.symm).elim
  · rintro s i s' hkeys - hnext
    obtain ⟨ok, heff⟩ := next_effect hnext
    exact heff.keysAreIds hkeys

/-- **Invariants of the loans**: what the genesis state has and every step keeps in a book whose
keys are ids, every reached state has. -/
theorem invariant_of_reach {config : GenesisConfig AccountId} {s₀ : RuntimeState AccountId}
    {c : RuntimeState AccountId → Step AccountId → Prop} {I : RuntimeState AccountId → Prop}
    (hgenesis : config.build = some s₀) (hreach : Reach next c s₀ s) (hstart : I s₀)
    (hstep : ∀ s i ok s', Effect s i ok s' → next i s = some s' → s.saving.KeysAreIds → c s i →
      I s → I s') : I s := by
  suffices hboth : s.saving.KeysAreIds ∧ I s from hboth.2
  refine hreach.invariant (I := fun s => s.saving.KeysAreIds ∧ I s) ?_ ?_
  · exact ⟨keysAreIds_of_reach (c := c) hgenesis .refl, hstart⟩
  · rintro s i s' ⟨hkeys, hI⟩ hi hnext
    obtain ⟨ok, heff⟩ := next_effect hnext
    exact ⟨heff.keysAreIds hkeys, hstep s i ok s' heff hnext hkeys hi hI⟩

/-- **TotalLoan and TotalCollateral are the sums over the loans** in every state that
is reached by steps that keep track of the loans. -/
theorem counters_match {config : GenesisConfig AccountId} {s₀ : RuntimeState AccountId}
    (hgenesis : config.build = some s₀)
    (hreach : Reach next (fun s i => s.KeepsCounters i) s₀ s) :
    s.saving.totalLoan.toNat = s.saving.loanSum ∧
      s.saving.totalCollateral.toNat = s.saving.collateralSum := by
  have hm : s.saving.CountersMatch := by
    refine invariant_of_reach (I := fun s => s.saving.CountersMatch) hgenesis hreach ?_ ?_
    · rw [config.saving_of_build hgenesis]
      exact ⟨rfl, rfl⟩
    · intro s i ok s' heff _ hkeys hi hm
      exact heff.countersMatch hkeys hm hi
  exact ⟨hm.loan, hm.collateral⟩

theorem counters_match_example : ∃ s, next (signedCall 5 (.applyLoan 2 100)) exampleState = some s ∧
    s.saving.totalLoan = 100 ∧ s.saving.totalLoan.toNat = s.saving.loanSum ∧
    s.saving.totalCollateral.toNat = s.saving.collateralSum := by
  obtain ⟨s, hnext, hloan⟩ := exists_of_any (p := fun s => s.saving.totalLoan = 100)
    (o := next (signedCall 5 (.applyLoan 2 100)) exampleState) (by decide +kernel)
  have hkeeps : exampleState.KeepsCounters (signedCall 5 (.applyLoan 2 100)) :=
    fun _ _ => ⟨by decide +kernel, by decide +kernel, by decide +kernel⟩
  exact ⟨s, hnext, hloan, counters_match exampleConfig_build (Reach.refl.tail hkeeps hnext)⟩

/-- The calls about loans, and the hooks. -/
def Step.isLending : Step AccountId → Bool
  | .extrinsic _ (.depositLoan (.applyLoan _ _)) => true
  | .extrinsic _ (.depositLoan (.draw _ _)) => true
  | .extrinsic _ (.depositLoan (.addCollateral _ _)) => true
  | .extrinsic _ (.depositLoan (.repayLoan _)) => true
  | .extrinsic _ (.depositLoan (.markLiquidated _ _)) => true
  | .onInitialize _ => true
  | .onFinalize _ => true
  | _ => false

/-- A loan is granted, put into liquidation and closed: the book is empty, the
counters are not. -/
theorem counters_mismatch : ¬∀ s, Reach next (fun _ i => i.isLending = true) exampleState s →
    s.saving.totalLoan.toNat = s.saving.loanSum ∧
      s.saving.totalCollateral.toNat = s.saving.collateralSum := by
  intro h
  obtain ⟨s, hrun, hne⟩ := exists_of_any
    (p := fun s => s.saving.loanSum = 0 ∧ s.saving.totalLoan.toNat = 100)
    (o := run next [signedCall 5 (.applyLoan 2 100), .onInitialize 1,
      signedCall 3 (.markLiquidated 0 100)] exampleState) (by decide +kernel)
  have hsum := (h s (reach_of_run hrun (by decide))).1
  omega

end MoneyPool
