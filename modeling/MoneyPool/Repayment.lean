import MoneyPool.GenericAsset.Changes
import MoneyPool.Effect

/-!
# What a failed repayment leaves behind

A repayment checks what is noted as available collateral and hands out the original collateral, so
that it can fail between its two transfers. What it runs then adds the loan to the counters, from
which it has not been subtracted yet. `MoneyPool.failed_repayment_iff` says when that comes to
nothing: if there is nothing to add, and the loan is on the list of its owner once.
-/

namespace MoneyPool

open Pallet Pallet.Exec DepositLoan RuntimeState GenericAsset

variable {AccountId : Type} [DecidableEq AccountId] [Inhabited AccountId]

/-! ### The list of an account -/

section Lists

variable {α : Type} [DecidableEq α] {k k' : α} {l : List α}

/-- **Taking a value off a list and appending one** rearranges the list if the value is the same and
was there once. -/
theorem filter_append_singleton_perm_iff :
    (l.filter (· ≠ k) ++ [k']).Perm l ↔ k' = k ∧ l.count k = 1 := by
  have hnone : (l.filter (· ≠ k)).count k = 0 := by
    refine List.count_eq_zero_of_not_mem fun hmem => ?_
    exact of_decide_eq_true (List.mem_filter.mp hmem).2 rfl
  have hkept {a : α} (ha : a ≠ k) : (l.filter (· ≠ k)).count a = l.count a :=
    List.count_filter (decide_eq_true ha)
  constructor
  · intro h
    have hcount := h.count_eq k'
    rw [List.count_append, List.count_singleton_self] at hcount
    rcases eq_or_ne k' k with rfl | hne
    · rw [hnone] at hcount
      exact ⟨rfl, hcount.symm⟩
    · rw [hkept hne] at hcount
      omega
  · rintro ⟨rfl, hone⟩
    refine List.perm_iff_count.mpr fun a => ?_
    rw [List.count_append]
    rcases eq_or_ne a k' with rfl | hne
    · rw [hnone, hone, List.count_singleton_self]
    · rw [hkept hne, List.count_singleton, if_neg (by simpa using hne.symm), Nat.add_zero]

end Lists

/-! ### The state that is left -/

namespace RuntimeState

variable (s : RuntimeState AccountId)

/-- **A repayment has left no trace** in the balances, the books of the loans and the counters. A
list of loans may be in another order. -/
structure Reverted (s' : RuntimeState AccountId) : Prop where
  balances : s.assets.SameBalances s'.assets
  loans : s'.saving.loans = s.saving.loans
  totalLoan : s'.saving.totalLoan = s.saving.totalLoan
  totalCollateral : s'.saving.totalCollateral = s.saving.totalCollateral
  liquidatingLoans : s'.saving.liquidatingLoans = s.saving.liquidatingLoans
  loansByAccount : ∀ who, (s'.saving.loansByAccount.get who).Perm (s.saving.loansByAccount.get who)

/-- **When reverting a repayment comes to nothing**: the loan has no balance and no available
collateral, which would be added to the counters, and it is on the list of its owner once. -/
structure NothingToRevert (who : AccountId) (loanId : LoanId) : Prop where
  balance : (s.saving.loans.get loanId).loanBalanceTotal = 0
  available : (s.saving.loans.get loanId).collateralBalanceAvailable = 0
  id : (s.saving.loans.get loanId).id = loanId
  listed : (s.saving.loansByAccount.get who).count loanId = 1

end RuntimeState

variable {s s' : RuntimeState AccountId} {who : AccountId} {loanId : LoanId}
  {a : GenericAsset.Store AccountId}

omit [Inhabited AccountId] in
/-- A repayment of nothing moves nothing, there and back. -/
theorem sameBalances_returned {loan : Loan AccountId} (hzero : loan.loanBalanceTotal = 0)
    (h : s.Returned who loan a) : s.assets.SameBalances a := by
  have hreserved (assetId : AssetId) (w : AccountId) :
      a.reserved assetId w = s.assets.reserved assetId w := by
    cases h <;> simp only [paidBack, Store.reserved_moved]
  refine (Store.sameBalances_iff hreserved).mpr fun assetId => ?_
  cases h <;> simp only [paidBack, hzero, Store.change_moved, Store.change_self, flow_zero,
    ite_self, add_zero]

/-- **A repayment that is reverted** leaves no trace if there is nothing to revert. -/
theorem reverted_iff (htry : s.CanTryRepay who (s.saving.loans.get loanId) loanId)
    (ha : s.Returned who (s.saving.loans.get loanId) a) :
    s.Reverted { s with
      assets := a, saving := s.repayReverted who (s.saving.loans.get loanId) loanId } ↔
      s.NothingToRevert who loanId := by
  have hlist : ((s.repayReverted who (s.saving.loans.get loanId) loanId).loansByAccount.get who) =
      (s.saving.loansByAccount.get who).filter (· ≠ loanId) ++
        [(s.saving.loans.get loanId).id] := by
    simp only [repayReverted, StorageMap.get_mutate, if_true]
  constructor
  · intro h
    have hperm := h.loansByAccount who
    rw [hlist, filter_append_singleton_perm_iff] at hperm
    exact ⟨add_eq_left.mp h.totalLoan, add_eq_left.mp h.totalCollateral, hperm.1, hperm.2⟩
  · intro h
    refine ⟨sameBalances_returned h.balance ha, ?_, ?_, ?_, rfl, fun w => ?_⟩
    · have hget := StorageMap.get?_of_containsKey htry.found
      simp only [repayReverted, h.id, StorageMap.insert_of_get? hget]
    · simp only [repayReverted, h.balance, add_zero]
    · simp only [repayReverted, h.available, add_zero]
    · rcases eq_or_ne w who with rfl | hne
      · rw [hlist]
        exact filter_append_singleton_perm_iff.mpr ⟨h.id, h.listed⟩
      · simp only [repayReverted, StorageMap.get_mutate, if_neg hne]
        exact List.Perm.refl _

/-! ### The call -/

/-- **A repayment that fails** fails in its checks, or has been reverted. -/
theorem repayLoan_spec {origin : Origin AccountId} :
    wp (repayLoan origin loanId : Prog .release AccountId Unit) (fun _ _ => True)
      (fun _ s' => (∀ who, s.saving.paused = false → origin = .signed who →
          ¬s.CanTryRepay who (s.saving.loans.get loanId) loanId) ∧ s' = s ∨
        ∃ who, s.saving.paused = false ∧ origin = .signed who ∧
          s.CanTryRepay who (s.saving.loans.get loanId) loanId ∧
          ¬s.CanReturn who (s.saving.loans.get loanId) ∧
          ∃ a, s.Returned who (s.saving.loans.get loanId) a ∧ s' = { s with
            assets := a, saving := s.repayReverted who (s.saving.loans.get loanId) loanId })
      True s := by
  simp only [repayLoan, wp_bind, wp_gets, wp_ensure, wp_ensureSigned]
  refine ⟨fun hopen => ⟨fun who hsigned => ?_, ?_⟩, ?_⟩
  case refine_2 => exact fun hno => Or.inl ⟨fun who _ hsigned => absurd hsigned (hno who), trivial⟩
  case refine_3 => exact fun hno => Or.inl ⟨fun _ hopen => absurd hopen hno, trivial⟩
  refine wp_mono (repayForLoan_spec rfl) (fun _ _ _ => trivial) ?_ id
  rintro _ _ (⟨hno, rfl⟩ | ⟨htry, hret, a, ha, rfl⟩)
  · refine Or.inl ⟨fun who' _ hsigned' => ?_, rfl⟩
    cases hsigned.symm.trans hsigned'
    exact hno
  · exact Or.inr ⟨who, hopen, hsigned, htry, hret, a, ha, rfl⟩

/-- **When a repayment that fails leaves no trace**: its checks fail, or the collateral cannot be
handed out and there is nothing to revert. -/
def RuntimeState.RepaysCleanly (s : RuntimeState AccountId) (origin : Origin AccountId)
    (loanId : LoanId) : Prop :=
  ∀ who, s.saving.paused = false → origin = .signed who →
    s.CanTryRepay who (s.saving.loans.get loanId) loanId →
      s.CanReturn who (s.saving.loans.get loanId) ∨ s.NothingToRevert who loanId

/-- **A repayment that fails leaves no trace** if and only if it fails in its checks or there is
nothing to revert. -/
theorem failed_repayment_iff {origin : Origin AccountId} {e : DispatchError}
    (h : (repayLoan origin loanId : Prog .release AccountId Unit) s = .err e s') :
    s.Reverted s' ↔ s.RepaysCleanly origin loanId := by
  rcases (wp_of_err h).mp repayLoan_spec with
    ⟨hno, rfl⟩ | ⟨who, hopen, hsigned, htry, hret, a, ha, rfl⟩
  · refine iff_of_true ⟨.refl _, rfl, rfl, rfl, rfl, fun _ => List.Perm.refl _⟩ ?_
    exact fun who hopen hsigned htry => absurd htry (hno who hopen hsigned)
  · rw [reverted_iff htry ha]
    constructor
    · intro hnothing who' _ hsigned' _
      cases hsigned.symm.trans hsigned'
      exact Or.inr hnothing
    · intro hclean
      exact (hclean who hopen hsigned htry).resolve_left hret

/-- Account 6 tries to repay the loan of account 5. -/
theorem failed_repayment_example : ∃ s s' e,
    next (signedCall 5 (.applyLoan 3 100)) exampleState = some s ∧
      (repayLoan (.signed 6) 0 : Prog .release ℕ Unit) s = .err e s' ∧ s.Reverted s' := by
  obtain ⟨s, hnext, herr, howner⟩ := exists_of_any
    (p := fun s => ((repayLoan (.signed 6) 0 : Prog .release ℕ Unit) s).errState.isSome = true ∧
      (s.saving.loans.get 0).who = 5)
    (o := next (signedCall 5 (.applyLoan 3 100)) exampleState) (by decide +kernel)
  obtain ⟨s', hs'⟩ := Option.isSome_iff_exists.mp herr
  obtain ⟨e, hrepay⟩ := Outcome.eq_err_of_errState hs'
  refine ⟨s, s', e, hnext, hrepay, (failed_repayment_iff hrepay).mpr ?_⟩
  rintro _ _ ⟨⟩ htry
  rw [htry.owner] at howner
  exact absurd howner (by decide)

/-- **A repayment that fails is counted as a loan.** Account 5 borrows 100 for 3 and adds 1 to its
collateral, which the pawn shop gets in another asset. It cannot have its collateral of 4 back, and
afterwards the loans total 200. -/
theorem failed_repayment_leaves_trace : ¬∀ s, Reachable next exampleState s →
    ∀ origin loanId e s', (repayLoan origin loanId : Prog .release ℕ Unit) s = .err e s' →
      s.Reverted s' := by
  intro h
  obtain ⟨s, hrun, herr, hmore⟩ := exists_of_any
    (p := fun s => ((repayLoan (.signed 5) 0 : Prog .release ℕ Unit) s).errState.isSome = true ∧
      (((repayLoan (.signed 5) 0 : Prog .release ℕ Unit) s).errState.any fun s' =>
        s'.saving.totalLoan = s.saving.totalLoan + 100) = true)
    (o := run next [signedCall 5 (.applyLoan 3 100), signedCall 5 (.addCollateral 0 1)]
      exampleState) (by decide +kernel)
  obtain ⟨s', hs'⟩ := Option.isSome_iff_exists.mp herr
  obtain ⟨e, hrepay⟩ := Outcome.eq_err_of_errState hs'
  rw [hs', Option.any_some, decide_eq_true_eq] at hmore
  have hsame := (h s (reachable_of_run hrun) _ _ e s' hrepay).totalLoan
  rw [hmore] at hsame
  exact absurd (add_eq_left.mp hsame) (by decide)

end MoneyPool
