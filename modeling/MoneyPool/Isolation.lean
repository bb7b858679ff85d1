import MoneyPool.Liquidation

/-!
# One user cannot touch another

What an account calls on its own behalf moves money between itself, the collection
account and the pawn shop, and rewrites its own entry and its own loans. That nobody
else is affected (`MoneyPool.RuntimeState.Isolated`) rests on the owner checks of the
loan operations and, for an application, on the id of the new loan: it must not be in
use for somebody else. `MoneyPool.isolated_iff` says that this is all it rests on.
-/

namespace MoneyPool

open Pallet Pallet.Exec DepositLoan RuntimeState

variable {AccountId : Type} [DecidableEq AccountId] [Inhabited AccountId]

/-! ### What nobody else loses -/

/-- The accounts whose money a call of `w` does not move. -/
def RuntimeState.Bystander (s : RuntimeState AccountId) (w who : AccountId) : Prop :=
  who ≠ w ∧ who ≠ s.saving.collectionAccountId ∧ who ≠ s.saving.pawnShop

/-- **Nobody else is affected** by what `w` does: no bystander loses any asset, and the
entries and the loans of the others are what they were. -/
structure RuntimeState.Isolated (s : RuntimeState AccountId) (w : AccountId)
    (s' : RuntimeState AccountId) : Prop where
  free : ∀ who assetId, s.Bystander w who →
    s.assets.free assetId who ≤ s'.assets.free assetId who
  userDtoken : ∀ who, who ≠ w → s'.saving.userDtoken.get? who = s.saving.userDtoken.get? who
  loans : ∀ loanId loan, s.saving.loans.get? loanId = some loan → loan.who ≠ w →
    s'.saving.loans.get? loanId = some loan
  inLiquidation : ∀ loanId loan, s.saving.loans.get? loanId = some loan → loan.who ≠ w →
    (loanId ∈ s'.saving.inLiquidation ↔ loanId ∈ s.saving.inLiquidation)

/-- **When a call leaves the loans of the others alone**: an application that is granted
does not get the id of a loan of somebody else. -/
def RuntimeState.KeepsOthers (s : RuntimeState AccountId) (w : AccountId) :
    DepositLoan.Call AccountId → Prop
  | .applyLoan collateralAmount loanAmount =>
    s.saving.paused = false → s.CanApply .release w collateralAmount loanAmount →
      ∀ loan, s.saving.loans.get? s.saving.nextLoanId = some loan → loan.who = w
  | _ => True

section Parts

variable {s s' : RuntimeState AccountId} {w who fromAccount toAccount : AccountId}
  {assetId asset' : AssetId} {amount : Balance} {assets : GenericAsset.Store AccountId}

omit [Inhabited AccountId] in
/-- A transfer that no bystander takes part in leaves its balances alone. -/
theorem le_free_moved (hfrom : who ≠ fromAccount) (hto : who ≠ toAccount)
    (hle : s.assets.free asset' who ≤ assets.free asset' who) :
    s.assets.free asset' who ≤
      (assets.moved assetId fromAccount toAccount amount).free asset' who :=
  (GenericAsset.Store.free_moved_of_ne hfrom hto).symm ▸ hle

omit [DecidableEq AccountId] [Inhabited AccountId] in
/-- What writes the loan of the caller only, leaves the loans of the others alone. -/
theorem loans_of_insert {loanId : LoanId} {loan' : Loan AccountId}
    (hb : s'.saving.loans = s.saving.loans.insert loanId loan')
    (hown : ∀ loan, s.saving.loans.get? loanId = some loan → loan.who = w) :
    ∀ k loan, s.saving.loans.get? k = some loan → loan.who ≠ w →
      s'.saving.loans.get? k = some loan := by
  intro k loan hget hne
  rw [hb, StorageMap.get?_insert]
  rcases eq_or_ne k loanId with rfl | hk
  · exact absurd (hown loan hget) hne
  · rw [if_neg hk, hget]

omit [DecidableEq AccountId] [Inhabited AccountId] in
/-- What deletes the loan of the caller only, leaves the loans of the others alone. -/
theorem loans_of_remove {loanId : LoanId} (hb : s'.saving.loans = s.saving.loans.remove loanId)
    (hown : ∀ loan, s.saving.loans.get? loanId = some loan → loan.who = w) :
    ∀ k loan, s.saving.loans.get? k = some loan → loan.who ≠ w →
      s'.saving.loans.get? k = some loan := by
  intro k loan hget hne
  rw [hb, StorageMap.get?_remove]
  rcases eq_or_ne k loanId with rfl | hk
  · exact absurd (hown loan hget) hne
  · rw [if_neg hk, hget]

omit [DecidableEq AccountId] in
/-- The loan that is read is the loan that is stored. -/
theorem owner_of_get {t : DepositLoan.Store AccountId} {loanId : LoanId}
    (howner : (t.loans.get loanId).who = w) :
    ∀ loan, t.loans.get? loanId = some loan → loan.who = w := by
  intro loan hget
  rw [← StorageMap.get_of_get? hget]
  exact howner

omit [Inhabited AccountId] in
/-- Nothing has happened. -/
theorem RuntimeState.Isolated.refl (s : RuntimeState AccountId) (w : AccountId) :
    s.Isolated w s :=
  ⟨fun _ _ _ => BitVec.le_refl _, fun _ _ => rfl, fun _ _ h _ => h, fun _ _ _ _ => Iff.rfl⟩

end Parts

/-! ### Savings -/

section Savings

variable {s s' : RuntimeState AccountId} {w : AccountId} {assetId : AssetId} {amount : Balance}

omit [Inhabited AccountId] in
theorem RuntimeState.Isolated.trans {s₁ : RuntimeState AccountId} (h : s.Isolated w s₁)
    (h' : s₁.Isolated w s') (hcoll : s₁.saving.collectionAccountId = s.saving.collectionAccountId)
    (hshop : s₁.saving.pawnShop = s.saving.pawnShop) : s.Isolated w s' := by
  refine ⟨fun who asset' hby => ?_, fun who hne => ?_, fun loanId loan hget hne => ?_,
    fun loanId loan hget hne => ?_⟩
  · have hby' : s₁.Bystander w who := ⟨hby.1, hcoll ▸ hby.2.1, hshop ▸ hby.2.2⟩
    exact BitVec.le_trans (h.free who asset' hby) (h'.free who asset' hby')
  · rw [h'.userDtoken who hne, h.userDtoken who hne]
  · exact h'.loans loanId loan (h.loans loanId loan hget hne) hne
  · rw [h'.inLiquidation loanId loan (h.loans loanId loan hget hne) hne,
      h.inLiquidation loanId loan hget hne]

omit [Inhabited AccountId] in
theorem isolated_staked : s.Isolated w (s.staked w assetId amount) where
  free _ _ hby := le_free_moved hby.1 hby.2.1 (BitVec.le_refl _)
  userDtoken who hne := by
    simp only [staked, StorageMap.get?_insert, if_neg hne]
  loans _ _ hget _ := hget
  inLiquidation _ _ _ _ := Iff.rfl

omit [Inhabited AccountId] in
theorem isolated_paidOut : s.Isolated w (s.paidOut w) := by
  unfold paidOut
  split
  · exact
      { free := fun _ _ hby => le_free_moved hby.2.1 hby.1 (BitVec.le_refl _)
        userDtoken := fun _ _ => rfl
        loans := fun _ _ hget _ => hget
        inLiquidation := fun _ _ _ _ => Iff.rfl }
  · exact .refl s w

omit [Inhabited AccountId] in
/-- A redeem pays out to the caller and takes from the caller. -/
theorem RuntimeState.Redeemed.isolated (h : s.Redeemed w assetId amount s') :
    s.Isolated w s' := by
  cases h with
  | restaked =>
    refine isolated_paidOut.trans isolated_staked (paidOut_collectionAccountId ..) ?_
    unfold paidOut
    split <;> rfl
  | kept => exact isolated_paidOut

end Savings

/-! ### Every call -/

section Calls

variable {s s' : RuntimeState AccountId} {w : AccountId} {call : DepositLoan.Call AccountId}
  {ok : Bool}

/-- **Nobody else is affected** by a call that leaves the loans of the others alone. -/
theorem Effect.isolated (h : Effect s (.extrinsic (.signed w) (.depositLoan call)) ok s')
    (hcall : call.isUserCall = true) (hkeys : s.saving.KeysAreIds) (hown : s.KeepsOthers w call) :
    s.Isolated w s' := by
  cases h with
  | unchanged => exact .refl s w
  | staked who assetId amount hi =>
    cases call <;> cases hi
    exact isolated_staked
  | redeemed who assetId amount hi hopen hcan hred =>
    cases call <;> cases hi
    exact hred.isolated
  | granted _ collateralAmount loanAmount hopen hcan =>
    exact
      { free := fun _ _ hby => le_free_moved hby.2.1 hby.1
          (le_free_moved hby.1 hby.2.2 (BitVec.le_refl _))
        userDtoken := fun _ _ => rfl
        loans := loans_of_insert rfl (hown hopen hcan)
        inLiquidation := fun _ _ _ _ => Iff.rfl }
  | taken =>
    exact
      { free := fun _ _ hby => le_free_moved hby.1 hby.2.2 (BitVec.le_refl _)
        userDtoken := fun _ _ => rfl
        loans := fun _ _ hget _ => hget
        inLiquidation := fun _ _ _ _ => Iff.rfl }
  | repaid _ loanId hopen htry hret =>
    -- what is deleted is the id in the record, which is the key
    have hloans : (s.repaid w (s.saving.loans.get loanId) loanId).saving.loans =
        s.saving.loans.remove loanId := by
      rw [RuntimeState.repaid, hkeys.get htry.found]
    exact
      { free := fun _ _ hby => le_free_moved hby.2.2 hby.1
          (le_free_moved hby.1 hby.2.1 (BitVec.le_refl _))
        userDtoken := fun _ _ => rfl
        loans := loans_of_remove hloans (owner_of_get htry.owner)
        inLiquidation := fun _ _ _ _ => Iff.rfl }
  | repayReverted _ loanId assets hopen htry hret hback =>
    have hloans : (s.repayReverted w (s.saving.loans.get loanId) loanId).loans =
        s.saving.loans.insert loanId (s.saving.loans.get loanId) := by
      rw [RuntimeState.repayReverted, hkeys.get htry.found]
    refine
      { free := fun who asset' hby => ?_
        userDtoken := fun _ _ => rfl
        loans := loans_of_insert hloans (owner_of_get htry.owner)
        inLiquidation := fun _ _ _ _ => Iff.rfl }
    -- the payment goes from the caller, and what is returned goes back to it
    have hpaid : s.assets.free asset' who ≤
        (s.paidBack w (s.saving.loans.get loanId)).free asset' who :=
      le_free_moved hby.1 hby.2.1 (BitVec.le_refl _)
    cases hback with
    | back => exact le_free_moved hby.2.1 hby.1 hpaid
    | kept => exact hpaid
  | liquidated => cases hcall
  | notLiquidated => cases hcall
  | collateralAdded _ loanId amount hopen hfound howner hcov =>
    obtain ⟨loan', hloans⟩ : ∃ loan',
        (s.collateralAdded (s.saving.loans.get loanId) w amount).saving.loans =
          s.saving.loans.insert loanId loan' := by
      rw [RuntimeState.collateralAdded, hkeys.get hfound]
      exact ⟨_, rfl⟩
    exact
      { free := fun _ _ hby => le_free_moved hby.1 hby.2.2 (BitVec.le_refl _)
        userDtoken := fun _ _ => rfl
        loans := loans_of_insert hloans (owner_of_get howner.symm)
        inLiquidation := fun _ _ _ _ => Iff.rfl }
  | drawn _ loanId amount hopen hcan =>
    exact
      { free := fun _ _ _ => BitVec.le_refl _
        userDtoken := fun _ _ => rfl
        loans := loans_of_insert rfl (owner_of_get hcan.owner)
        inLiquidation := fun _ _ _ _ => Iff.rfl }

/-- **Account isolation.** In every reached state a call that an account makes on its own
behalf, with whatever arguments and result, affects nobody else exactly if it is not an
application that is granted under the id of a loan of somebody else. -/
theorem isolated_iff {config : GenesisConfig AccountId} {s₀ : RuntimeState AccountId}
    (hgenesis : config.build = some s₀) (hreach : Reachable next s₀ s)
    (hcall : call.isUserCall = true)
    (hnext : next (.extrinsic (.signed w) (.depositLoan call)) s = some s') :
    s.Isolated w s' ↔ s.KeepsOthers w call := by
  constructor
  · intro hiso
    unfold KeepsOthers
    split
    · rename_i collateralAmount loanAmount
      intro hopen hcan loan hget
      by_contra hne
      -- the loan of the other is overwritten with the new one
      rw [next_applyLoan hopen hcan] at hnext
      cases hnext
      have hkept := hiso.loans _ loan hget hne
      have hnew := get?_withLoan (s := s) w collateralAmount loanAmount
      cases hnew.symm.trans hkept
      exact hne rfl
    · trivial
  · intro hown
    obtain ⟨ok, heff⟩ := next_effect hnext
    exact heff.isolated hcall (keysAreIds_of_reach hgenesis hreach) hown

end Calls

theorem isolated_example : ∃ s s', next (signedCall 5 (.applyLoan 2 100)) exampleState = some s ∧
    next (signedCall 6 (.applyLoan 2 100)) s = some s' ∧ s.Isolated 6 s' := by
  obtain ⟨s, hfirst, hnone⟩ := exists_of_any
    (p := fun s => s.saving.loans.get? s.saving.nextLoanId = none)
    (o := next (signedCall 5 (.applyLoan 2 100)) exampleState) (by decide +kernel)
  obtain ⟨s', hsecond⟩ : ∃ s', next (signedCall 6 (.applyLoan 2 100)) s = some s' := by
    unfold next
    split
    · exact ⟨_, rfl⟩
    · exact ⟨_, rfl⟩
    · exact ⟨s, rfl⟩
  refine ⟨s, s', hfirst, hsecond, ?_⟩
  refine (isolated_iff exampleConfig_build (Reach.refl.tail trivial hfirst) rfl hsecond).mpr ?_
  intro _ _ loan hget
  exact (Option.some_ne_none loan (hget.symm.trans hnone)).elim

/-- All ids but the first are used up, and an application of account 6 overwrites the
loan of account 5 that is stored under it. -/
theorem not_isolated : ¬∀ s, Reachable next exampleState s →
    ∀ (w : ℕ) (call : DepositLoan.Call ℕ), call.isUserCall = true →
      ∀ s', next (.extrinsic (.signed w) (.depositLoan call)) s = some s' → s.Isolated w s' := by
  intro h
  obtain ⟨s, hreach, hused⟩ := exists_idsUsed
  have hnext := next_applyLoan hused.notPaused (hused.canApply hused.other)
  have hiso := h s (hreach.mono fun _ _ _ => trivial) 6 (.applyLoan 1 0) rfl _ hnext
  obtain ⟨loan, hget, hwho⟩ := hused.first
  have hother : loan.who ≠ 6 := by
    rw [hwho]
    decide
  have hkept := hiso.loans 0 loan hget hother
  have hzero : s.saving.nextLoanId = 0 := hused.nextLoanId.trans (by decide)
  have hnew := get?_withLoan (s := s) 6 1 0
  rw [hzero] at hnew
  cases hnew.symm.trans hkept
  exact hother rfl

end MoneyPool
