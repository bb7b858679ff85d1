import MoneyPool.GenericAsset.Changes
import MoneyPool.Effect

/-!
# How a liquidation is settled

What an auction has brought is to cover the loan, and what is left of it is to be shared between
the profits and the owner of the loan. The code has the liquidation account pay the loan only; the
leftover is paid out of the savings. So a settlement adds up if there is no leftover
(`MoneyPool.settles_fully_iff`).

A liquidation that fails behind the first of its transfers undoes what it has done by further
transfers, which name other accounts and other amounts. `MoneyPool.failed_liquidation_iff` says
when that comes to nothing.
-/

namespace MoneyPool

open Pallet Pallet.Exec DepositLoan RuntimeState GenericAsset

variable {AccountId : Type} [DecidableEq AccountId]

namespace RuntimeState

variable (s : RuntimeState AccountId) (loan : Loan AccountId) (liquidationAccount : AccountId)

/-! ### What a settlement should do -/

/-- The part of a leftover that goes to the profits: a percentage of it. -/
def penaltyShare (leftover : ℕ) : ℕ := leftover * s.saving.liquidationPenalty.toNat / 100

/-- **A settlement in full**: the auction pays for everything, the savings get the balance of the
loan, the profits their percentage of the leftover and the owner of the loan the rest of it. -/
structure SettlesFully (auctionBalance : Balance) (s' : RuntimeState AccountId) : Prop where
  liquidation : (s'.assets.free s.saving.loanAssetId liquidationAccount).toNat +
    auctionBalance.toNat = (s.assets.free s.saving.loanAssetId liquidationAccount).toNat
  collection : (s'.assets.free s.saving.loanAssetId s.saving.collectionAccountId).toNat =
    (s.assets.free s.saving.loanAssetId s.saving.collectionAccountId).toNat +
      loan.loanBalanceTotal.toNat
  profit : (s'.assets.free s.saving.loanAssetId s.saving.profitPool).toNat =
    (s.assets.free s.saving.loanAssetId s.saving.profitPool).toNat +
      s.penaltyShare (auctionBalance.toNat - loan.loanBalanceTotal.toNat)
  within : s.penaltyShare (auctionBalance.toNat - loan.loanBalanceTotal.toNat) ≤
    auctionBalance.toNat - loan.loanBalanceTotal.toNat
  owner : (s'.assets.free s.saving.loanAssetId loan.who).toNat =
    (s.assets.free s.saving.loanAssetId loan.who).toNat +
      (auctionBalance.toNat - loan.loanBalanceTotal.toNat -
        s.penaltyShare (auctionBalance.toNat - loan.loanBalanceTotal.toNat))

end RuntimeState

variable {s s' : RuntimeState AccountId} {loan : Loan AccountId} {liquidationAccount : AccountId}
  {auctionBalance leftover : Balance}

/-! ### The calls -/

section Calls

variable [Inhabited AccountId] {origin : Origin AccountId} {loanId : LoanId}

/-- What the call checks before it comes to the loan. -/
structure RuntimeState.CanMark (s : RuntimeState AccountId) (origin : Origin AccountId)
    (loanId : LoanId) (who : AccountId) : Prop where
  opened : s.saving.paused = false
  signed : origin = .signed who
  account : who = s.saving.liquidationAccount
  found : s.saving.loans.containsKey loanId = true

/-- **Closing a loan**, for whomever calls it. -/
theorem markLiquidated_spec :
    wp (markLiquidated origin loanId auctionBalance : Prog .release AccountId Unit)
      (fun _ s' => ∃ who, s.CanMark origin loanId who ∧
        s.CanTryLiquidate (s.saving.loans.get loanId) who auctionBalance ∧
        s' = s.liquidated (s.saving.loans.get loanId) who auctionBalance)
      (fun _ s' => (∀ who, s.CanMark origin loanId who →
          ¬s.CanTryLiquidate (s.saving.loans.get loanId) who auctionBalance) ∧ s' = s ∨
        ∃ who, s.CanMark origin loanId who ∧
          s.CanTryLiquidate (s.saving.loans.get loanId) who auctionBalance ∧
          ¬s.CanSettle (s.saving.loans.get loanId) who auctionBalance ∧
          ∃ a, (s.sold (s.saving.loans.get loanId) who).NotShared (s.saving.loans.get loanId) who
              (auctionBalance - (s.saving.loans.get loanId).loanBalanceTotal) a ∧
            s' = { s with assets := a }) True s := by
  simp only [markLiquidated, wp_bind, wp_gets, wp_ensure, wp_ensureSigned]
  refine ⟨fun hopen => ⟨fun who hsigned => ⟨fun hwho => ⟨fun hfound => ?_, ?_⟩, ?_⟩, ?_⟩, ?_⟩
  case refine_2 => exact fun hno => Or.inl ⟨fun _ hmark => absurd hmark.found hno, trivial⟩
  case refine_3 =>
    refine fun hno => Or.inl ⟨fun who' hmark => ?_, trivial⟩
    cases hsigned.symm.trans hmark.signed
    exact absurd hmark.account hno
  case refine_4 => exact fun hno => Or.inl ⟨fun who hmark => absurd hmark.signed (hno who), trivial⟩
  case refine_5 => exact fun hno => Or.inl ⟨fun _ hmark => absurd hmark.opened hno, trivial⟩
  have hmark : s.CanMark origin loanId who := ⟨hopen, hsigned, hwho, hfound⟩
  refine wp_mono markLoanLiquidated_spec ?_ ?_ id
  · rintro _ _ ⟨htry, -, rfl⟩
    exact ⟨who, hmark, htry, rfl⟩
  · rintro _ _ (⟨hno, rfl⟩ | ⟨htry, hset, a, ha, rfl⟩)
    · refine Or.inl ⟨fun who' hmark' => ?_, rfl⟩
      cases hsigned.symm.trans hmark'.signed
      exact hno
    · exact Or.inr ⟨who, hmark, htry, hset, a, ha, rfl⟩

end Calls

/-! ### A settlement that goes through -/

section Success

variable (hcollection : liquidationAccount ≠ s.saving.collectionAccountId)
  (hprofit : liquidationAccount ≠ s.saving.profitPool) (howner : liquidationAccount ≠ loan.who)
  (hcp : s.saving.collectionAccountId ≠ s.saving.profitPool)
  (hco : s.saving.collectionAccountId ≠ loan.who)

include hcollection hprofit howner in
/-- **The liquidation account pays the loan**, and no more. -/
theorem settled_liquidation :
    (s.settled loan liquidationAccount auctionBalance).free s.saving.loanAssetId
        liquidationAccount =
      s.assets.free s.saving.loanAssetId liquidationAccount - loan.loanBalanceTotal := by
  have hsold : (s.sold loan liquidationAccount).assets.free s.saving.loanAssetId
      liquidationAccount =
      s.assets.free s.saving.loanAssetId liquidationAccount - loan.loanBalanceTotal :=
    Store.free_moved_from hcollection
  unfold settled
  split
  · -- the leftover is paid by the collection account
    refine (Store.free_moved_of_ne hcollection howner).trans ?_
    exact (Store.free_moved_of_ne hcollection hprofit).trans hsold
  · exact hsold

omit [DecidableEq AccountId] in
/-- Without a leftover nothing is shared out. -/
theorem settled_of_eq [DecidableEq AccountId] (h : auctionBalance = loan.loanBalanceTotal) :
    s.settled loan liquidationAccount auctionBalance = s.paidBack liquidationAccount loan := by
  rw [settled, h, sub_self, if_neg (by simp)]
  rfl

include hcollection hprofit howner hcp hco in
/-- **A settlement is in full** if there is no leftover, and the savings have room for the balance
of the loan. -/
theorem settlesFully_liquidated
    (htry : s.CanTryLiquidate loan liquidationAccount auctionBalance) :
    s.SettlesFully loan liquidationAccount auctionBalance
        (s.liquidated loan liquidationAccount auctionBalance) ↔
      auctionBalance = loan.loanBalanceTotal ∧
        (s.assets.free s.saving.loanAssetId s.saving.collectionAccountId).toNat +
          loan.loanBalanceTotal.toNat < 2 ^ 128 := by
  have hle := BitVec.le_def.mp htry.enough
  have hpays : loan.loanBalanceTotal ≤ s.assets.free s.saving.loanAssetId liquidationAccount :=
    BitVec.le_trans htry.enough htry.funded
  have hfund := BitVec.le_def.mp hpays
  have hexact := BitVec.toNat_sub_of_le hpays
  have hroom := toNat_add_cases
    (s.assets.free s.saving.loanAssetId s.saving.collectionAccountId) loan.loanBalanceTotal
  have hlt := (s.assets.free s.saving.loanAssetId s.saving.collectionAccountId +
    loan.loanBalanceTotal).isLt
  constructor
  · intro h
    have hliq := h.liquidation
    have hcol := h.collection
    rw [liquidated, settled_liquidation hcollection hprofit howner] at hliq
    -- the liquidation account has paid the loan, so that the auction has brought no more
    have heq : auctionBalance = loan.loanBalanceTotal := BitVec.eq_of_toNat_eq (by omega)
    rw [liquidated, settled_of_eq heq, paidBack, Store.free_moved_to hcollection] at hcol
    exact ⟨heq, by omega⟩
  · rintro ⟨rfl, hfits⟩
    have hzero :
        s.penaltyShare (loan.loanBalanceTotal.toNat - loan.loanBalanceTotal.toNat) = 0 := by
      rw [penaltyShare, Nat.sub_self, Nat.zero_mul, Nat.zero_div]
    refine ⟨?_, ?_, ?_, ?_, ?_⟩
    · rw [liquidated, settled_liquidation hcollection hprofit howner]
      omega
    · rw [liquidated, settled_of_eq rfl, paidBack, Store.free_moved_to hcollection]
      omega
    · rw [liquidated, settled_of_eq rfl, paidBack,
        Store.free_moved_of_ne hprofit.symm hcp.symm, hzero, Nat.add_zero]
    · rw [hzero]
      exact Nat.zero_le _
    · rw [liquidated, settled_of_eq rfl, paidBack,
        Store.free_moved_of_ne howner.symm hco.symm, hzero, Nat.sub_self, Nat.add_zero]

end Success

/-- **A liquidation that succeeds is settled in full** if and only if there is no leftover, and the
savings have room for the balance of the loan. -/
theorem settles_fully_iff [Inhabited AccountId] {origin : Origin AccountId} {loanId : LoanId}
    (h : (markLiquidated origin loanId auctionBalance : Prog .release AccountId Unit) s = .ok () s')
    (hcollection : s.saving.liquidationAccount ≠ s.saving.collectionAccountId)
    (hprofit : s.saving.liquidationAccount ≠ s.saving.profitPool)
    (howner : s.saving.liquidationAccount ≠ (s.saving.loans.get loanId).who)
    (hcp : s.saving.collectionAccountId ≠ s.saving.profitPool)
    (hco : s.saving.collectionAccountId ≠ (s.saving.loans.get loanId).who) :
    s.SettlesFully (s.saving.loans.get loanId) s.saving.liquidationAccount auctionBalance s' ↔
      auctionBalance = (s.saving.loans.get loanId).loanBalanceTotal ∧
        (s.assets.free s.saving.loanAssetId s.saving.collectionAccountId).toNat +
          (s.saving.loans.get loanId).loanBalanceTotal.toNat < 2 ^ 128 := by
  obtain ⟨who, hmark, htry, rfl⟩ := (wp_of_ok h).mp markLiquidated_spec
  obtain rfl := hmark.account
  exact settlesFully_liquidated hcollection hprofit howner hcp hco htry

/-- The blocks that put a loan of account 5 into liquidation: it borrows 100 and draws 100 more,
and the next scan finds the loan. -/
def liquidatedRun : List (Step ℕ) :=
  [signedCall 5 (.applyLoan 3 100), signedCall 5 (.draw 0 100), .onInitialize 1]

/-- The auction of the loan brings its balance. -/
theorem settles_fully_example : ∃ s s', run next liquidatedRun exampleState = some s ∧
    (markLiquidated (.signed 3) 0 200 : Prog .release ℕ Unit) s = .ok () s' ∧
    s.SettlesFully (s.saving.loans.get 0) 3 200 s' := by
  obtain ⟨s, hrun, hok, hwho, ⟨hcollection, hprofit, howner, hcp, hco⟩, hfits⟩ := exists_of_any
    (p := fun s => ((markLiquidated (.signed 3) 0 200 : Prog .release ℕ Unit) s).okState.isSome =
        true ∧ s.saving.liquidationAccount = 3 ∧
      (s.saving.liquidationAccount ≠ s.saving.collectionAccountId ∧
        s.saving.liquidationAccount ≠ s.saving.profitPool ∧
        s.saving.liquidationAccount ≠ (s.saving.loans.get 0).who ∧
        s.saving.collectionAccountId ≠ s.saving.profitPool ∧
        s.saving.collectionAccountId ≠ (s.saving.loans.get 0).who) ∧
      200 = (s.saving.loans.get 0).loanBalanceTotal ∧
        (s.assets.free s.saving.loanAssetId s.saving.collectionAccountId).toNat +
          (s.saving.loans.get 0).loanBalanceTotal.toNat < 2 ^ 128)
    (o := run next liquidatedRun exampleState) (by decide +kernel)
  obtain ⟨s', hs'⟩ := Option.isSome_iff_exists.mp hok
  have hmark := Outcome.eq_ok_of_okState hs'
  have hfull := (settles_fully_iff hmark hcollection hprofit howner hcp hco).mpr hfits
  rw [hwho] at hfull
  exact ⟨s, s', hrun, hmark, hfull⟩

/-- The example with a penalty of 13 per cent. -/
def mildState : RuntimeState ℕ :=
  GenesisConfig.build { exampleConfig with
    depositLoan := { exampleConfig.depositLoan with liquidationPenalty := 13 } }
    |>.get (by decide +kernel)

/-- **The savings pay the leftover**: of an auction that has brought 300 for a loan of 200, the
liquidation account pays 200. -/
theorem not_settles_fully : ¬∀ s, Reachable next mildState s → ∀ origin loanId auctionBalance s',
    (markLiquidated origin loanId auctionBalance : Prog .release ℕ Unit) s = .ok () s' →
    s.saving.liquidationAccount ≠ s.saving.collectionAccountId →
    s.saving.liquidationAccount ≠ s.saving.profitPool →
    s.saving.liquidationAccount ≠ (s.saving.loans.get loanId).who →
    s.saving.collectionAccountId ≠ s.saving.profitPool →
    s.saving.collectionAccountId ≠ (s.saving.loans.get loanId).who →
    s.saving.profitPool ≠ (s.saving.loans.get loanId).who →
    s.SettlesFully (s.saving.loans.get loanId) s.saving.liquidationAccount auctionBalance s' := by
  intro h
  obtain ⟨s, hrun, hok, ⟨hcollection, hprofit, howner, hcp, hco, hpo⟩, hless⟩ := exists_of_any
    (p := fun s => ((markLiquidated (.signed 3) 0 300 : Prog .release ℕ Unit) s).okState.isSome =
        true ∧
      (s.saving.liquidationAccount ≠ s.saving.collectionAccountId ∧
        s.saving.liquidationAccount ≠ s.saving.profitPool ∧
        s.saving.liquidationAccount ≠ (s.saving.loans.get 0).who ∧
        s.saving.collectionAccountId ≠ s.saving.profitPool ∧
        s.saving.collectionAccountId ≠ (s.saving.loans.get 0).who ∧
        s.saving.profitPool ≠ (s.saving.loans.get 0).who) ∧
      (((markLiquidated (.signed 3) 0 300 : Prog .release ℕ Unit) s).okState.any fun s' =>
        (s'.assets.free s.saving.loanAssetId s.saving.liquidationAccount).toNat + 200 =
          (s.assets.free s.saving.loanAssetId s.saving.liquidationAccount).toNat) = true)
    (o := run next liquidatedRun mildState) (by decide +kernel)
  obtain ⟨s', hs'⟩ := Option.isSome_iff_exists.mp hok
  have hfull := h s (reachable_of_run hrun) _ _ _ s' (Outcome.eq_ok_of_okState hs') hcollection
    hprofit howner hcp hco hpo
  rw [hs', Option.any_some, decide_eq_true_eq] at hless
  have hmore := hfull.liquidation
  have hauction : (300 : Balance).toNat = 300 := rfl
  omega

/-! ### A settlement that fails -/

namespace RuntimeState

variable (t : RuntimeState AccountId) (loan : Loan AccountId) (liquidationAccount : AccountId)
  (leftover : Balance)

/-- **When the transfers of a failed settlement come to nothing**, in the state in which the
balance of the loan has been paid. Where the penalty cannot be paid, the pawn shop is the
collection account or there is nothing to hand back; or the pawn shop cannot pay either, and the
liquidation account is the collection account. Where the rest cannot be paid, the penalty is handed
back and happens to be the balance of the loan, and no collateral is given away. -/
inductive Undone : Prop
  | lent (hp : ¬t.penalty leftover ≤
        t.assets.free t.saving.loanAssetId t.saving.collectionAccountId)
      (h : loan.loanBalanceTotal ≤ t.assets.free t.saving.loanAssetId t.saving.pawnShop)
      (hsame : t.saving.pawnShop = t.saving.collectionAccountId ∨ loan.loanBalanceTotal = 0)
  | alone (hp : ¬t.penalty leftover ≤
        t.assets.free t.saving.loanAssetId t.saving.collectionAccountId)
      (h : ¬loan.loanBalanceTotal ≤ t.assets.free t.saving.loanAssetId t.saving.pawnShop)
      (hsame : liquidationAccount = t.saving.collectionAccountId)
  | penaltyBack (hp : t.penalty leftover ≤
        t.assets.free t.saving.loanAssetId t.saving.collectionAccountId)
      (hr : ¬leftover - t.penalty leftover ≤
        (t.penalized leftover).free t.saving.loanAssetId t.saving.collectionAccountId)
      (h : t.penalty leftover ≤
        (t.penalized leftover).free t.saving.loanAssetId t.saving.profitPool)
      (hc : ¬loan.collateralBalanceOriginal ≤
        (t.penaltyBack liquidationAccount leftover).free t.saving.collateralAssetId
          t.saving.pawnShop)
      (hsame : liquidationAccount = t.saving.collectionAccountId ∨
        loan.loanBalanceTotal = t.penalty leftover)
  | collateralGiven (hp : t.penalty leftover ≤
        t.assets.free t.saving.loanAssetId t.saving.collectionAccountId)
      (hr : ¬leftover - t.penalty leftover ≤
        (t.penalized leftover).free t.saving.loanAssetId t.saving.collectionAccountId)
      (h : t.penalty leftover ≤
        (t.penalized leftover).free t.saving.loanAssetId t.saving.profitPool)
      (hc : loan.collateralBalanceOriginal ≤
        (t.penaltyBack liquidationAccount leftover).free t.saving.collateralAssetId
          t.saving.pawnShop)
      (hsame : (liquidationAccount = t.saving.collectionAccountId ∨
          loan.loanBalanceTotal = t.penalty leftover) ∧
            (t.saving.pawnShop = liquidationAccount ∨ loan.collateralBalanceOriginal = 0) ∨
        t.saving.loanAssetId = t.saving.collateralAssetId ∧
          t.saving.pawnShop = t.saving.collectionAccountId ∧
            loan.loanBalanceTotal - t.penalty leftover = loan.collateralBalanceOriginal)

end RuntimeState

section Failure

variable {a : GenericAsset.Store AccountId}

/-- A failed settlement writes free balances only. -/
theorem NotShared.reserved {t : RuntimeState AccountId}
    (h : t.NotShared loan liquidationAccount leftover a) (assetId : AssetId) (who : AccountId) :
    a.reserved assetId who = t.assets.reserved assetId who := by
  cases h <;> simp only [penaltyBack, penalized, Store.reserved_moved]

/-- What the payment of a loan from an auction changes. -/
theorem change_sold (asset' : AssetId) :
    s.assets.change (s.sold loan liquidationAccount).assets asset' =
      if asset' = s.saving.loanAssetId then
        flow liquidationAccount s.saving.collectionAccountId loan.loanBalanceTotal
      else 0 := by
  rw [sold, paidBack, Store.change_moved, Store.change_self, zero_add]

/-- What the payment of the loan and of the penalty change. -/
theorem change_penalized (asset' : AssetId) :
    s.assets.change ((s.sold loan liquidationAccount).penalized leftover) asset' =
      if asset' = s.saving.loanAssetId then
        flow liquidationAccount s.saving.collectionAccountId loan.loanBalanceTotal +
          flow s.saving.collectionAccountId s.saving.profitPool
            ((s.sold loan liquidationAccount).penalty leftover)
      else 0 := by
  rw [penalized, Store.change_moved, change_sold]
  exact (ite_add_ite ..).trans (by rw [add_zero]; rfl)

/-- What is left of that when the penalty has been handed back. -/
theorem change_penaltyBack (asset' : AssetId) :
    s.assets.change ((s.sold loan liquidationAccount).penaltyBack liquidationAccount leftover)
        asset' =
      if asset' = s.saving.loanAssetId then
        flow liquidationAccount s.saving.collectionAccountId
          (loan.loanBalanceTotal - (s.sold loan liquidationAccount).penalty leftover)
      else 0 := by
  have hround := flow_trans s.saving.collectionAccountId s.saving.profitPool liquidationAccount
    ((s.sold loan liquidationAccount).penalty leftover)
  rw [penaltyBack, Store.change_moved, change_penalized, ← flow_add_flow_symm, ← hround,
    ← add_assoc]
  exact (ite_add_ite ..).trans (by rw [add_zero]; rfl)

/-- A penalty that cannot be handed back is missed somewhere. -/
theorem not_sameBalances_restKept
    (htry : s.CanTryLiquidate loan liquidationAccount auctionBalance)
    (hp : (s.sold loan liquidationAccount).penalty leftover ≤
      (s.sold loan liquidationAccount).assets.free s.saving.loanAssetId
        s.saving.collectionAccountId)
    (h : ¬(s.sold loan liquidationAccount).penalty leftover ≤
      ((s.sold loan liquidationAccount).penalized leftover).free s.saving.loanAssetId
        s.saving.profitPool) :
    ¬s.assets.SameBalances ((s.sold loan liquidationAccount).penalized leftover) := by
  intro hsame
  have hpays : loan.loanBalanceTotal ≤ s.assets.free s.saving.loanAssetId liquidationAccount :=
    BitVec.le_trans htry.enough htry.funded
  have hzero : (s.sold loan liquidationAccount).penalty leftover ≠ 0 := by
    intro hno
    rw [hno] at h
    exact h (BitVec.le_def.mpr (Nat.zero_le _))
  have hflow := (Store.sameBalances_of_change hsame.reserved change_penalized).mp hsame
  rw [add_comm, flow_add_flow_eq_zero_iff] at hflow
  rcases hflow with ⟨hpool | hno, -⟩ | ⟨hpool, heq⟩
  · -- the profits lie where the savings do
    have hsold : (s.sold loan liquidationAccount).penalized leftover =
        (s.sold loan liquidationAccount).assets := by
      rw [penalized]
      exact hpool ▸ Store.moved_self ..
    rw [hsold, ← hpool] at h
    exact h hp
  · exact hzero hno
  · -- the profits lie in the liquidation account, which has what it had
    rw [hsame.free, heq, ← hpool] at h
    exact h hpays

/-- What the payment of the loan changes when the pawn shop hands back the balance of the loan. -/
theorem change_lent (asset' : AssetId) :
    s.assets.change ((s.sold loan liquidationAccount).assets.moved s.saving.loanAssetId
        s.saving.pawnShop liquidationAccount loan.loanBalanceTotal) asset' =
      if asset' = s.saving.loanAssetId then
        flow s.saving.pawnShop s.saving.collectionAccountId loan.loanBalanceTotal
      else 0 := by
  have hround := flow_trans s.saving.pawnShop liquidationAccount s.saving.collectionAccountId
    loan.loanBalanceTotal
  rw [Store.change_moved, change_sold, ← hround, add_comm (flow s.saving.pawnShop _ _)]
  exact (ite_add_ite ..).trans (by rw [add_zero])

/-- **The transfers of a failed settlement** come to nothing in the cases listed. -/
theorem sameBalances_notShared_iff
    (htry : s.CanTryLiquidate loan liquidationAccount auctionBalance)
    (h : (s.sold loan liquidationAccount).NotShared loan liquidationAccount leftover a) :
    s.assets.SameBalances a ↔
      (s.sold loan liquidationAccount).Undone loan liquidationAccount leftover := by
  have hreserved (assetId : AssetId) (who : AccountId) :
      a.reserved assetId who = s.assets.reserved assetId who := by
    rw [NotShared.reserved h, sold, paidBack, Store.reserved_moved]
  cases h with
  -- the payment of the loan is all that has moved
  | penaltyKept hp hkept =>
    rw [Store.sameBalances_of_change hreserved change_sold, flow_eq_zero_iff]
    constructor
    · rintro (hsame | hzero)
      · exact .alone hp hkept hsame
      · rw [hzero] at hkept
        exact absurd (BitVec.le_def.mpr (Nat.zero_le _)) hkept
    · rintro (⟨-, hno, -⟩ | ⟨-, -, hsame⟩ | ⟨hno, -⟩ | ⟨hno, -⟩)
      · exact absurd hno hkept
      · exact Or.inl hsame
      · exact absurd hno hp
      · exact absurd hno hp
  -- the pawn shop stands in for the savings
  | penaltyShort hp hlent =>
    refine (Store.sameBalances_of_change hreserved change_lent).trans (flow_eq_zero_iff.trans ?_)
    constructor
    · exact fun hsame => .lent hp hlent hsame
    · rintro (⟨-, -, hsame⟩ | ⟨-, hno, -⟩ | ⟨hno, -⟩ | ⟨hno, -⟩)
      · exact hsame
      · exact absurd hlent hno
      · exact absurd hno hp
      · exact absurd hno hp
  | restKept hp hr hkept =>
    refine iff_of_false (not_sameBalances_restKept htry hp hkept) ?_
    rintro (⟨hno, -⟩ | ⟨hno, -⟩ | ⟨-, -, hno, -⟩ | ⟨-, -, hno, -⟩)
    · exact hno hp
    · exact hno hp
    · exact hkept hno
    · exact hkept hno
  | restShort hp hr hback hshort =>
    refine (Store.sameBalances_of_change hreserved change_penaltyBack).trans
      (flow_eq_zero_iff.trans ?_)
    rw [sub_eq_zero]
    constructor
    · exact fun hsame => .penaltyBack hp hr hback hshort hsame
    · rintro (⟨hno, -⟩ | ⟨hno, -⟩ | ⟨-, -, -, -, hsame⟩ | ⟨-, -, -, hno, -⟩)
      · exact absurd hp hno
      · exact absurd hp hno
      · exact hsame
      · exact absurd hno hshort
  | collateralGiven hp hr hback hgiven =>
    have hchange (asset' : AssetId) : s.assets.change
        (((s.sold loan liquidationAccount).penaltyBack liquidationAccount leftover).moved
          s.saving.collateralAssetId s.saving.pawnShop liquidationAccount
          loan.collateralBalanceOriginal) asset' =
        (if asset' = s.saving.loanAssetId then flow liquidationAccount s.saving.collectionAccountId
            (loan.loanBalanceTotal - (s.sold loan liquidationAccount).penalty leftover) else 0) +
          if asset' = s.saving.collateralAssetId then
            flow s.saving.pawnShop liquidationAccount loan.collateralBalanceOriginal else 0 := by
      rw [Store.change_moved, change_penaltyBack]
    have hflows := Store.sameBalances_of_change_two hreserved hchange
    rw [flow_add_flow_eq_zero_iff, flow_eq_zero_iff, flow_eq_zero_iff, sub_eq_zero] at hflows
    rw [hflows]
    constructor
    · rintro ⟨htwo, hone⟩
      refine .collateralGiven hp hr hback hgiven ?_
      -- in one asset the two flows may cancel each other
      rcases eq_or_ne s.saving.loanAssetId s.saving.collateralAssetId with heq | hne
      · exact (hone heq).imp id fun h => ⟨heq, h⟩
      · exact Or.inl (htwo hne)
    · rintro (⟨hno, -⟩ | ⟨hno, -⟩ | ⟨-, -, -, hno, -⟩ | ⟨-, -, -, -, hsame⟩)
      · exact absurd hp hno
      · exact absurd hp hno
      · exact absurd hgiven hno
      · refine ⟨fun hne => ?_, fun _ => ?_⟩
        · rcases hsame with hsame | ⟨heq, -⟩
          · exact hsame
          · exact absurd heq hne
        · exact hsame.imp id And.right

end Failure

section Calls

variable [Inhabited AccountId] {origin : Origin AccountId} {loanId : LoanId}

/-- **A call has left no trace** in the balances and the books of the loans. -/
structure RuntimeState.LeftAlone (s s' : RuntimeState AccountId) : Prop where
  balances : s.assets.SameBalances s'.assets
  loans : s'.saving.loans = s.saving.loans
  loansByAccount : s'.saving.loansByAccount = s.saving.loansByAccount
  liquidatingLoans : s'.saving.liquidatingLoans = s.saving.liquidatingLoans

/-- **When a liquidation that fails leaves no trace**: its checks fail, or the transfers behind
them come to nothing. -/
def RuntimeState.FailsCleanly (s : RuntimeState AccountId) (origin : Origin AccountId)
    (loanId : LoanId) (auctionBalance : Balance) : Prop :=
  let loan := s.saving.loans.get loanId
  ∀ who, s.CanMark origin loanId who → s.CanTryLiquidate loan who auctionBalance →
    s.CanSettle loan who auctionBalance ∨
      (s.sold loan who).Undone loan who (auctionBalance - loan.loanBalanceTotal)

/-- **A liquidation that fails leaves no trace** if and only if it fails in its checks, or the
transfers by which it undoes the others come to nothing. -/
theorem failed_liquidation_iff {e : DispatchError}
    (h : (markLiquidated origin loanId auctionBalance : Prog .release AccountId Unit) s =
      .err e s') : s.LeftAlone s' ↔ s.FailsCleanly origin loanId auctionBalance := by
  rcases (wp_of_err h).mp markLiquidated_spec with ⟨hno, rfl⟩ | ⟨who, hmark, htry, hset, a, ha, rfl⟩
  · refine iff_of_true ⟨.refl _, rfl, rfl, rfl⟩ fun who hmark htry => ?_
    exact absurd htry (hno who hmark)
  · constructor
    · intro hsame who' hmark' _
      cases hmark.signed.symm.trans hmark'.signed
      exact Or.inr ((sameBalances_notShared_iff htry ha).mp hsame.balances)
    · intro hclean
      have hundone := (hclean who hmark htry).resolve_left hset
      exact ⟨(sameBalances_notShared_iff htry ha).mpr hundone, rfl, rfl, rfl⟩

end Calls

/-- The auction of a loan of 200 has brought 150. -/
theorem failed_liquidation_example : ∃ s s' e, run next liquidatedRun exampleState = some s ∧
    (markLiquidated (.signed 3) 0 150 : Prog .release ℕ Unit) s = .err e s' ∧ s.LeftAlone s' := by
  obtain ⟨s, hrun, herr, hless⟩ := exists_of_any
    (p := fun s => ((markLiquidated (.signed 3) 0 150 : Prog .release ℕ Unit) s).errState.isSome =
        true ∧ ¬(s.saving.loans.get 0).loanBalanceTotal ≤ 150)
    (o := run next liquidatedRun exampleState) (by decide +kernel)
  obtain ⟨s', hs'⟩ := Option.isSome_iff_exists.mp herr
  obtain ⟨e, hmark⟩ := Outcome.eq_err_of_errState hs'
  refine ⟨s, s', e, hrun, hmark, (failed_liquidation_iff hmark).mpr fun who _ htry => ?_⟩
  exact absurd htry.enough hless

/-- **A liquidation that fails gives away the collateral.** A penalty of 1300 per cent leaves a rest
below zero, which cannot be paid: the liquidation account has paid 200 for the loan, gets the
penalty of 1300 and the collateral, and the loan stays. -/
theorem failed_liquidation_leaves_trace : ¬∀ s, Reachable next exampleState s →
    ∀ origin loanId auctionBalance e s',
      (markLiquidated origin loanId auctionBalance : Prog .release ℕ Unit) s = .err e s' →
      s.LeftAlone s' := by
  intro h
  obtain ⟨s, hrun, herr, hmore⟩ := exists_of_any
    (p := fun s => ((markLiquidated (.signed 3) 0 300 : Prog .release ℕ Unit) s).errState.isSome =
        true ∧
      (((markLiquidated (.signed 3) 0 300 : Prog .release ℕ Unit) s).errState.any fun s' =>
        s'.assets.free 0 3 = s.assets.free 0 3 + 1100 ∧
          s'.assets.free 1 3 = s.assets.free 1 3 + 3) = true)
    (o := run next liquidatedRun exampleState) (by decide +kernel)
  obtain ⟨s', hs'⟩ := Option.isSome_iff_exists.mp herr
  obtain ⟨e, hmark⟩ := Outcome.eq_err_of_errState hs'
  rw [hs', Option.any_some, decide_eq_true_eq] at hmore
  have hsame := (h s (reachable_of_run hrun) _ _ _ e s' hmark).balances.free 1 3
  rw [hmore.2] at hsame
  exact absurd (add_eq_left.mp hsame) (by decide)

end MoneyPool
