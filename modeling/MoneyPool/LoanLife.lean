import MoneyPool.Pallet.Simulation
import MoneyPool.LoanIndex

/-!
# The life of a loan

Seen from a single loan, the whole chain is a small machine: an id is unused until a loan is granted
under it, the loan changes by draws and by collateral that is added, and it ends by a repayment or
by the sale of its collateral. `MoneyPool.LoanEvent.next` is that machine, which only lets the owner
act, and which never leaves its last stage.

The chain is simulated by it, for every id at once, as long as the counter of ids does not wrap
(`MoneyPool.chain_simulates_loan`). So the record of a loan is its history, to the unit: what it was
granted with and what has been drawn and added since, by its owner and by nobody else
(`MoneyPool.loan_life`).
-/

namespace MoneyPool

open Pallet Pallet.Exec DepositLoan RuntimeState

variable {AccountId : Type}

/-! ### The life of a loan -/

/-- What is on record of a loan, but for its id and its status. -/
structure Debt (AccountId : Type) where
  who : AccountId
  original : Balance
  available : Balance
  total : Balance

/-- What is on record of a loan. -/
def DepositLoan.Loan.debt (loan : Loan AccountId) : Debt AccountId where
  who := loan.who
  original := loan.collateralBalanceOriginal
  available := loan.collateralBalanceAvailable
  total := loan.loanBalanceTotal

/-- The whole record. -/
def Debt.record (debt : Debt AccountId) (loanId : LoanId) (status : LoanHealth) :
    Loan AccountId where
  id := loanId
  who := debt.who
  collateralBalanceOriginal := debt.original
  collateralBalanceAvailable := debt.available
  loanBalanceTotal := debt.total
  status := status

theorem DepositLoan.Loan.record_debt (loan : Loan AccountId) :
    loan.debt.record loan.id loan.status = loan := rfl

/-- **What happens to a loan.** -/
inductive LoanEvent (AccountId : Type) where
  | granted (debt : Debt AccountId) : LoanEvent AccountId
  /-- Somebody adds collateral. -/
  | added (who : AccountId) (amount : Balance) : LoanEvent AccountId
  /-- Somebody draws, and some of the collateral is locked for it. -/
  | drawn (who : AccountId) (amount locked : Balance) : LoanEvent AccountId
  | repaid (who : AccountId) : LoanEvent AccountId
  /-- The collateral was sold. -/
  | sold : LoanEvent AccountId

/-- **The stages of a loan**, or of the id it may be granted under. -/
inductive LoanStage (AccountId : Type) where
  | unused : LoanStage AccountId
  | running (debt : Debt AccountId) : LoanStage AccountId
  | closed : LoanStage AccountId

/-- What is on record in a stage. -/
def LoanStage.debt : LoanStage AccountId → Option (Debt AccountId)
  | .running debt => some debt
  | _ => none

namespace LoanEvent

/-- The collateral an event adds. -/
def amountAdded : LoanEvent AccountId → Balance
  | .added _ amount => amount
  | _ => 0

/-- What an event draws. -/
def amountDrawn : LoanEvent AccountId → Balance
  | .drawn _ amount _ => amount
  | _ => 0

/-- The collateral an event locks. -/
def amountLocked : LoanEvent AccountId → Balance
  | .drawn _ _ locked => locked
  | _ => 0

/-- That an event changes a loan of an account. -/
inductive ChangedBy (who : AccountId) : LoanEvent AccountId → Prop
  | added (amount : Balance) : ChangedBy who (.added who amount)
  | drawn (amount locked : Balance) : ChangedBy who (.drawn who amount locked)

/-- That an event closes a loan of an account. -/
inductive ClosedBy (who : AccountId) : LoanEvent AccountId → Prop
  | repaid : ClosedBy who (.repaid who)
  | sold : ClosedBy who .sold

end LoanEvent

/-- **A debt after some events**: collateral is added, and draws raise the debt and lock
collateral. -/
def Debt.after (debt : Debt AccountId) (es : List (LoanEvent AccountId)) : Debt AccountId where
  who := debt.who
  original := debt.original + (es.map LoanEvent.amountAdded).sum
  available := debt.available + (es.map LoanEvent.amountAdded).sum -
    (es.map LoanEvent.amountLocked).sum
  total := debt.total + (es.map LoanEvent.amountDrawn).sum

variable [DecidableEq AccountId]

/-- **The machine of a loan**: which event it can take in which stage. Only the owner of a running
loan adds to it, draws on it and repays it. -/
def LoanEvent.next : LoanEvent AccountId → LoanStage AccountId → Option (LoanStage AccountId)
  | .granted debt, .unused => some (.running debt)
  | .added who amount, .running debt =>
    if debt.who = who then some (.running (debt.after [.added who amount])) else none
  | .drawn who amount locked, .running debt =>
    if debt.who = who then some (.running (debt.after [.drawn who amount locked])) else none
  | .repaid who, .running debt => if debt.who = who then some .closed else none
  | .sold, .running _ => some .closed
  | _, _ => none

section Machine

variable {debt : Debt AccountId} {e : LoanEvent AccountId} {es : List (LoanEvent AccountId)}
  {stage stage' : LoanStage AccountId}

omit [DecidableEq AccountId] in
/-- The debt after one event and then some others. -/
theorem Debt.after_cons : debt.after (e :: es) = (debt.after [e]).after es := by
  simp only [after, List.map_cons, List.map_nil, List.sum_cons, List.sum_nil, add_zero]
  congr 1
  · rw [add_assoc]
  · ring
  · rw [add_assoc]

omit [DecidableEq AccountId] in
theorem Debt.after_nil : debt.after [] = debt := by
  simp only [after, List.map_nil, List.sum_nil, add_zero, sub_zero]

omit [DecidableEq AccountId] in
/-- A loan with more collateral. -/
theorem Debt.added_eq {loan : Loan AccountId} {who : AccountId} {amount : Balance} :
    Loan.debt { loan with
      collateralBalanceOriginal := loan.collateralBalanceOriginal + amount
      collateralBalanceAvailable := loan.collateralBalanceAvailable + amount } =
      loan.debt.after [.added who amount] := by
  simp [after, Loan.debt, LoanEvent.amountAdded, LoanEvent.amountLocked, LoanEvent.amountDrawn]

omit [DecidableEq AccountId] in
/-- A loan that has been drawn on. -/
theorem Debt.drawn_eq {loan : Loan AccountId} {who : AccountId} {amount locked : Balance} :
    Loan.debt { loan with
      loanBalanceTotal := loan.loanBalanceTotal + amount
      collateralBalanceAvailable := loan.collateralBalanceAvailable - locked } =
      loan.debt.after [.drawn who amount locked] := by
  simp [after, Loan.debt, LoanEvent.amountAdded, LoanEvent.amountLocked, LoanEvent.amountDrawn]

/-- What a running loan can take. -/
theorem LoanEvent.next_running (h : e.next (.running debt) = some stage) :
    e.ChangedBy debt.who ∧ stage = .running (debt.after [e]) ∨
      e.ClosedBy debt.who ∧ stage = .closed := by
  cases e with
  | granted => cases h
  | added who amount =>
    obtain ⟨rfl, heq⟩ := Option.ite_none_right_eq_some.mp h
    exact Or.inl ⟨.added amount, (Option.some.inj heq).symm⟩
  | drawn who amount locked =>
    obtain ⟨rfl, heq⟩ := Option.ite_none_right_eq_some.mp h
    exact Or.inl ⟨.drawn amount locked, (Option.some.inj heq).symm⟩
  | repaid who =>
    obtain ⟨rfl, heq⟩ := Option.ite_none_right_eq_some.mp h
    exact Or.inr ⟨.repaid, (Option.some.inj heq).symm⟩
  | sold => exact Or.inr ⟨.sold, (Option.some.inj h).symm⟩

/-- Nothing happens to a loan that is closed. -/
theorem LoanEvent.run_closed (h : run LoanEvent.next es .closed = some stage) :
    es = [] ∧ stage = .closed := by
  cases es with
  | nil => exact ⟨rfl, (Option.some.inj h).symm⟩
  | cons e es =>
    obtain ⟨_, he, -⟩ := Option.bind_eq_some_iff.mp h
    cases e <;> cases he

/-- **A running loan** changes at its owner's hands, until it may be closed. -/
theorem LoanEvent.run_running (h : run LoanEvent.next es (.running debt) = some stage) :
    ∃ changes, (∀ e ∈ changes, e.ChangedBy debt.who) ∧
      (es = changes ∧ stage = .running (debt.after changes) ∨
        ∃ e, e.ClosedBy debt.who ∧ es = changes ++ [e] ∧ stage = .closed) := by
  induction es generalizing debt with
  | nil =>
    refine ⟨[], fun _ he => absurd he List.not_mem_nil, Or.inl ⟨rfl, ?_⟩⟩
    rw [Debt.after_nil]
    exact (Option.some.inj h).symm
  | cons e es ih =>
    obtain ⟨stage₁, he, hes⟩ := Option.bind_eq_some_iff.mp h
    rcases next_running he with ⟨hchange, rfl⟩ | ⟨hclose, rfl⟩
    · obtain ⟨changes, hall, hend⟩ := ih hes
      refine ⟨e :: changes, List.forall_mem_cons.mpr ⟨hchange, hall⟩, ?_⟩
      rcases hend with ⟨rfl, rfl⟩ | ⟨e', hclose, rfl, rfl⟩
      · exact Or.inl ⟨rfl, congrArg LoanStage.running Debt.after_cons.symm⟩
      · exact Or.inr ⟨e', hclose, rfl, rfl⟩
    · obtain ⟨rfl, rfl⟩ := run_closed hes
      exact ⟨[], fun _ he => absurd he List.not_mem_nil, Or.inr ⟨e, hclose, rfl, rfl⟩⟩

/-- **The life of a loan**, as its machine allows it. -/
theorem LoanEvent.run_unused (h : run LoanEvent.next es .unused = some stage) :
    es = [] ∧ stage = .unused ∨
      ∃ debt changes, (∀ e ∈ changes, e.ChangedBy debt.who) ∧
        (es = .granted debt :: changes ∧ stage = .running (debt.after changes) ∨
          ∃ e, e.ClosedBy debt.who ∧ es = .granted debt :: changes ++ [e] ∧ stage = .closed) := by
  cases es with
  | nil => exact Or.inl ⟨rfl, (Option.some.inj h).symm⟩
  | cons e es =>
    obtain ⟨stage₁, he, hes⟩ := Option.bind_eq_some_iff.mp h
    cases e with
    | granted debt =>
      cases he
      obtain ⟨changes, hall, hend⟩ := run_running hes
      refine Or.inr ⟨debt, changes, hall, ?_⟩
      rcases hend with ⟨rfl, rfl⟩ | ⟨e', hclose, rfl, rfl⟩
      · exact Or.inl ⟨rfl, rfl⟩
      · exact Or.inr ⟨e', hclose, rfl, rfl⟩
    | _ => cases he

end Machine

/-! ### What a step means for a loan -/

variable [Inhabited AccountId]

/-- What a call means for the loan under an id, if it succeeds. -/
def DepositLoan.Call.loanEvent (loanId : LoanId) (who : AccountId) (s : RuntimeState AccountId) :
    DepositLoan.Call AccountId → Option (LoanEvent AccountId)
  | .applyLoan collateralAmount loanAmount =>
    if s.saving.nextLoanId = loanId
    then some (.granted (s.newLoan who collateralAmount loanAmount).debt) else none
  | .addCollateral id amount => if id = loanId then some (.added who amount) else none
  | .draw id amount =>
    if id = loanId then some (.drawn who amount (amount / s.drawPrice)) else none
  | .repayLoan id => if id = loanId then some (.repaid who) else none
  | .markLiquidated id _ => if id = loanId then some .sold else none
  | _ => none

/-- What a step means for the loan under an id, if it succeeds. -/
def Step.loanMeaning (loanId : LoanId) (s : RuntimeState AccountId) :
    Step AccountId → Option (LoanEvent AccountId)
  | .extrinsic (.signed who) (.depositLoan call) => call.loanEvent loanId who s
  | _ => none

/-- **What a step means for the loan under an id**: nothing, if it fails. -/
def Step.loanEvent (loanId : LoanId) (i : Step AccountId) (s : RuntimeState AccountId) :
    Option (LoanEvent AccountId) :=
  if i.succeeds s then i.loanMeaning loanId s else none

/-- What is on record under an id. -/
def DepositLoan.Store.debtOf (t : DepositLoan.Store AccountId) (loanId : LoanId) :
    Option (Debt AccountId) :=
  (t.loans.get? loanId).map Loan.debt

/-- **A stage is that of the loan under an id**: the record is the same, and an id that has not been
given out is unused. -/
structure RuntimeState.HasLoan (s : RuntimeState AccountId) (loanId : LoanId)
    (stage : LoanStage AccountId) : Prop where
  keys : s.saving.KeysAreIds
  debt : s.saving.debtOf loanId = stage.debt
  fresh : s.saving.nextLoanId ≤ loanId → stage = .unused

section Steps

variable {s s' : RuntimeState AccountId} {t t' : DepositLoan.Store AccountId} {i : Step AccountId}
  {ok : Bool} {loanId k : LoanId} {loan : Loan AccountId} {stage : LoanStage AccountId}
  {given : Option (LoanEvent AccountId)} {e : LoanEvent AccountId}

omit [DecidableEq AccountId] [Inhabited AccountId] in
theorem DepositLoan.Store.debtOf_insert (hb : t'.loans = t.loans.insert k loan) :
    t'.debtOf loanId = if loanId = k then some loan.debt else t.debtOf loanId := by
  rw [debtOf, hb, StorageMap.get?_insert]
  split <;> rfl

omit [DecidableEq AccountId] [Inhabited AccountId] in
theorem DepositLoan.Store.debtOf_remove (hb : t'.loans = t.loans.remove k) :
    t'.debtOf loanId = if loanId = k then none else t.debtOf loanId := by
  rw [debtOf, hb, StorageMap.get?_remove]
  split <;> rfl

omit [DecidableEq AccountId] in
theorem DepositLoan.Store.debtOf_of_containsKey (h : t.loans.containsKey loanId = true) :
    t.debtOf loanId = some (t.loans.get loanId).debt := by
  rw [debtOf, StorageMap.get?_of_containsKey h]
  rfl

omit [DecidableEq AccountId] in
/-- A loan may be rewritten with the same record. -/
theorem DepositLoan.Store.debtOf_rewrite (hfound : t.loans.containsKey k = true)
    (hb : t'.loans = t.loans.insert k loan) (hdebt : loan.debt = (t.loans.get k).debt) :
    t'.debtOf loanId = t.debtOf loanId := by
  rw [debtOf_insert hb]
  split
  · rename_i hk
    rw [hk, debtOf_of_containsKey hfound, hdebt]
  · rfl

omit [DecidableEq AccountId] in
/-- A loan that is on record is running. -/
theorem RuntimeState.HasLoan.running (h : s.HasLoan loanId stage)
    (hfound : s.saving.loans.containsKey loanId = true) :
    stage = .running (s.saving.loans.get loanId).debt := by
  have hdebt := h.debt
  rw [DepositLoan.Store.debtOf_of_containsKey hfound] at hdebt
  cases stage with
  | running debt => exact congrArg LoanStage.running (Option.some.inj hdebt).symm
  | _ => cases hdebt

omit [Inhabited AccountId] in
/-- **Nothing happens to a loan.** -/
theorem RuntimeState.HasLoan.silent (h : s.HasLoan loanId stage) (hevent : given = none)
    (hkeys : s'.saving.KeysAreIds) (hdebt : s'.saving.debtOf loanId = s.saving.debtOf loanId)
    (hnext : s.saving.nextLoanId ≤ s'.saving.nextLoanId) :
    ∃ stage', run LoanEvent.next given.toList stage = some stage' ∧ s'.HasLoan loanId stage' := by
  rw [hevent]
  exact ⟨stage, rfl, hkeys, hdebt ▸ h.debt, fun hle => h.fresh (BitVec.le_trans hnext hle)⟩

/-- **Something happens to a running loan.** -/
theorem RuntimeState.HasLoan.event (h : s.HasLoan loanId stage)
    (hfound : s.saving.loans.containsKey loanId = true) (hevent : given = some e)
    {stage' : LoanStage AccountId}
    (hstep : e.next (.running (s.saving.loans.get loanId).debt) = some stage')
    (hkeys : s'.saving.KeysAreIds) (hdebt : s'.saving.debtOf loanId = stage'.debt)
    (hnext : s'.saving.nextLoanId = s.saving.nextLoanId) :
    ∃ stage', run LoanEvent.next given.toList stage = some stage' ∧ s'.HasLoan loanId stage' := by
  obtain rfl := h.running hfound
  rw [hevent]
  refine ⟨stage', run_singleton hstep, hkeys, hdebt, fun hle => ?_⟩
  rw [hnext] at hle
  cases h.fresh hle

/-- The steps of a hook leave what is on record. -/
theorem RuntimeState.HookStep.debtOf (h : s.HookStep s') (hkeys : s.saving.KeysAreIds) :
    s'.saving.debtOf loanId = s.saving.debtOf loanId := by
  cases h with
  | warned k ltv hfound =>
    exact Store.debtOf_rewrite hfound (hkeys.warned_loans hfound ltv) rfl
  | liquidating k ltv hfound => exact Store.debtOf_rewrite hfound rfl rfl
  | charged => rfl
  | accrued => rfl

omit [DecidableEq AccountId] [Inhabited AccountId] in
/-- A counter that does not wrap counts up. -/
theorem nextLoanId_add_one (h : s.saving.nextLoanId.toNat + 1 < 2 ^ 64) :
    (s.saving.nextLoanId + 1).toNat = s.saving.nextLoanId.toNat + 1 :=
  BitVec.toNat_add_of_lt h

omit [DecidableEq AccountId] [Inhabited AccountId] in
theorem nextLoanId_le (h : s.saving.nextLoanId.toNat + 1 < 2 ^ 64) :
    s.saving.nextLoanId ≤ s.saving.nextLoanId + 1 := by
  rw [BitVec.le_def, nextLoanId_add_one h]
  exact Nat.le_add_right _ _

omit [DecidableEq AccountId] [Inhabited AccountId] in
/-- Saving means nothing for a loan. -/
theorem loanMeaning_of_saving [DecidableEq AccountId] [Inhabited AccountId]
    (h : i.stake.isSome = true ∨ i.redeem.isSome = true) :
    i.loanMeaning loanId s = none := by
  rcases h with h | h
  · unfold Step.stake at h
    split at h
    · rfl
    · rfl
    · cases h
  · unfold Step.redeem at h
    split at h
    · rfl
    · rfl
    · cases h

/-- **A step is an event of the loan**, or nothing happens to it. -/
theorem Effect.hasLoan (h : Effect s i ok s') (hnext : next i s = some s') (hi : s.KeepsIds i)
    (hloan : s.HasLoan loanId stage) :
    ∃ stage', run LoanEvent.next (if ok = true then i.loanMeaning loanId s else none).toList stage =
      some stage' ∧ s'.HasLoan loanId stage' := by
  have hkeys := h.keysAreIds hloan.keys
  have hsilent {given : Option (LoanEvent AccountId)} (hgiven : given = none)
      (hb : s'.saving.loans = s.saving.loans)
      (hcount : s'.saving.nextLoanId = s.saving.nextLoanId) :
      ∃ stage', run LoanEvent.next given.toList stage = some stage' ∧ s'.HasLoan loanId stage' :=
    hloan.silent hgiven hkeys (by rw [Store.debtOf, hb, Store.debtOf]) (BitVec.le_of_eq hcount.symm)
  have hother (hnone : i.loanMeaning loanId s = none) :
      (if ok = true then i.loanMeaning loanId s else none) = none := by
    rw [hnone, ite_self]
  cases h with
  | unchanged => exact hsilent rfl rfl rfl
  | timed => exact hsilent rfl rfl rfl
  | oracleCall origin => exact hsilent (hother (by cases origin <;> rfl)) rfl rfl
  | aggregated => exact hsilent (hother rfl) rfl rfl
  | ledgerCall origin => exact hsilent (hother (by cases origin <;> rfl)) rfl rfl
  | ledgerFailed => exact hsilent rfl rfl rfl
  | set call f hf => exact hsilent rfl (setting_loans hf) (setting_index hf).2
  | staked who assetId amount hstake =>
    exact hsilent (loanMeaning_of_saving (Or.inl (hstake ▸ rfl))) rfl rfl
  | redeemed who assetId amount hredeem hopen hcan hred =>
    obtain ⟨u, m, d, heq⟩ := hred.saving_eq
    exact hsilent (loanMeaning_of_saving (Or.inr (hredeem ▸ rfl))) (by rw [heq]) (by rw [heq])
  | granted who collateralAmount loanAmount hopen hcan =>
    have hroom := hi hopen hcan.takesId
    have hloans : (s.withLoan who collateralAmount loanAmount).saving.loans =
        s.saving.loans.insert s.saving.nextLoanId (s.newLoan who collateralAmount loanAmount) := rfl
    rcases eq_or_ne s.saving.nextLoanId loanId with rfl | hne
    · obtain rfl := hloan.fresh (BitVec.le_refl _)
      have hgiven : (Step.extrinsic (.signed who) (.depositLoan (.applyLoan collateralAmount
          loanAmount))).loanMeaning s.saving.nextLoanId s =
          some (.granted (s.newLoan who collateralAmount loanAmount).debt) := if_pos rfl
      refine ⟨.running (s.newLoan who collateralAmount loanAmount).debt, ?_, hkeys, ?_, ?_⟩
      · rw [if_pos rfl, hgiven]
        rfl
      · rw [Store.debtOf_insert hloans, if_pos rfl]
        rfl
      · -- the counter has moved on
        intro hle
        have hnat : (s.saving.nextLoanId + 1).toNat ≤ s.saving.nextLoanId.toNat :=
          BitVec.le_def.mp hle
        rw [nextLoanId_add_one hroom] at hnat
        exact absurd hnat (Nat.not_succ_le_self _)
    · refine hloan.silent (if_neg hne) hkeys ?_ (nextLoanId_le hroom)
      rw [Store.debtOf_insert hloans, if_neg hne.symm]
  | taken who collateralAmount loanAmount hopen =>
    rcases takesId_of_next hnext with heq | ⟨-, htakes⟩
    · exact hsilent rfl rfl (by rw [heq])
    · exact hloan.silent rfl hkeys rfl (nextLoanId_le (hi hopen htakes))
  | repaid who id hopen htry hret =>
    have hloans : (s.repaid who (s.saving.loans.get id) id).saving.loans =
        s.saving.loans.remove id := by
      rw [RuntimeState.repaid, hloan.keys.get htry.found]
    rcases eq_or_ne id loanId with rfl | hne
    · have hgiven : (Step.extrinsic (.signed who) (.depositLoan (.repayLoan id))).loanMeaning id s =
          some (.repaid who) := if_pos rfl
      have hclosed : LoanEvent.next (.repaid who) (.running (s.saving.loans.get id).debt) =
          some .closed := if_pos htry.owner
      refine hloan.event htry.found hgiven hclosed hkeys ?_ rfl
      rw [Store.debtOf_remove hloans, if_pos rfl]
      rfl
    · refine hloan.silent (if_neg hne) hkeys ?_ (BitVec.le_refl _)
      rw [Store.debtOf_remove hloans, if_neg hne.symm]
  | repayReverted who id assets hopen htry hret =>
    refine hsilent rfl ?_ rfl
    rw [RuntimeState.repayReverted, hloan.keys.get htry.found,
      StorageMap.insert_of_get? (StorageMap.get?_of_containsKey htry.found)]
  | liquidated who id auctionBalance hopen hwho hfound htry hset =>
    have hloans : (s.liquidated (s.saving.loans.get id) who auctionBalance).saving.loans =
        s.saving.loans.remove id := by
      rw [RuntimeState.liquidated, hloan.keys.get hfound]
    rcases eq_or_ne id loanId with rfl | hne
    · have hgiven : (Step.extrinsic (.signed who) (.depositLoan (.markLiquidated id
          auctionBalance))).loanMeaning id s = some .sold := if_pos rfl
      have hclosed : LoanEvent.next .sold (.running (s.saving.loans.get id).debt) =
          some .closed := rfl
      refine hloan.event hfound hgiven hclosed hkeys ?_ rfl
      rw [Store.debtOf_remove hloans, if_pos rfl]
      rfl
    · refine hloan.silent (if_neg hne) hkeys ?_ (BitVec.le_refl _)
      rw [Store.debtOf_remove hloans, if_neg hne.symm]
  | notLiquidated => exact hsilent rfl rfl rfl
  | collateralAdded who id amount hopen hfound howner hcov =>
    obtain ⟨loan', hloans, hdebt⟩ : ∃ loan',
        (s.collateralAdded (s.saving.loans.get id) who amount).saving.loans =
          s.saving.loans.insert id loan' ∧
        loan'.debt = (s.saving.loans.get id).debt.after [.added who amount] := by
      rw [RuntimeState.collateralAdded, hloan.keys.get hfound]
      exact ⟨_, rfl, Debt.added_eq⟩
    rcases eq_or_ne id loanId with rfl | hne
    · have hgiven : (Step.extrinsic (.signed who) (.depositLoan (.addCollateral id
          amount))).loanMeaning id s = some (.added who amount) := if_pos rfl
      have hadded : LoanEvent.next (.added who amount) (.running (s.saving.loans.get id).debt) =
          some (.running ((s.saving.loans.get id).debt.after [.added who amount])) :=
        if_pos howner.symm
      refine hloan.event hfound hgiven hadded hkeys ?_ rfl
      rw [Store.debtOf_insert hloans, if_pos rfl, hdebt]
      rfl
    · refine hloan.silent (if_neg hne) hkeys ?_ (BitVec.le_refl _)
      rw [Store.debtOf_insert hloans, if_neg hne.symm]
  | drawn who id amount hopen hcan =>
    obtain ⟨loan', hloans, hdebt⟩ : ∃ loan',
        (s.drawn id amount).saving.loans = s.saving.loans.insert id loan' ∧
        loan'.debt =
          (s.saving.loans.get id).debt.after [.drawn who amount (amount / s.drawPrice)] :=
      ⟨_, rfl, Debt.drawn_eq⟩
    rcases eq_or_ne id loanId with rfl | hne
    · have hgiven :
          (Step.extrinsic (.signed who) (.depositLoan (.draw id amount))).loanMeaning id s =
            some (.drawn who amount (amount / s.drawPrice)) := if_pos rfl
      have hdrawn : LoanEvent.next (.drawn who amount (amount / s.drawPrice))
          (.running (s.saving.loans.get id).debt) = some (.running
            ((s.saving.loans.get id).debt.after [.drawn who amount (amount / s.drawPrice)])) :=
        if_pos hcan.owner
      refine hloan.event hcan.found hgiven hdrawn hkeys ?_ rfl
      rw [Store.debtOf_insert hloans, if_pos rfl, hdebt]
      rfl
    · refine hloan.silent (if_neg hne) hkeys ?_ (BitVec.le_refl _)
      rw [Store.debtOf_insert hloans, if_neg hne.symm]
  | hook height hsteps =>
    suffices hsame : s'.saving.KeysAreIds ∧ s'.saving.debtOf loanId = s.saving.debtOf loanId ∧
        s'.saving.nextLoanId = s.saving.nextLoanId from
      hloan.silent rfl hkeys hsame.2.1 (BitVec.le_of_eq hsame.2.2.symm)
    clear hsilent hnext hkeys
    induction hsteps with
    | refl => exact ⟨hloan.keys, rfl, rfl⟩
    | tail _ hstep ih =>
      obtain ⟨hkeys, hdebt, hcount⟩ := ih
      refine ⟨hstep.keysAreIds hkeys, (hstep.debtOf hkeys).trans hdebt, Eq.trans ?_ hcount⟩
      cases hstep <;> rfl

/-- **The chain, seen from the id of a loan**, is the machine of a loan. -/
theorem chain_simulates_loan (loanId : LoanId) :
    Simulates next (fun (s : RuntimeState AccountId) i => s.KeepsIds i) (Step.loanEvent loanId)
      LoanEvent.next fun s stage => s.HasLoan loanId stage where
  step _ _ _ _ hloan hi hnext := (effect_of_next hnext).hasLoan hnext hi hloan

end Steps

/-! ### Runs -/

/-- **The record of a loan is its history.** In every run from genesis that does not use up the last
id, an id has been used for one loan at most. The events of that loan are its grant, then draws and
collateral of its owner, and possibly its end, by the owner's repayment or by a sale. While it runs
the record is, but for its status, what the grant put down and what these events have changed, and
before and after that there is no record. -/
theorem loan_life {config : GenesisConfig AccountId} {s₀ s : RuntimeState AccountId}
    {is : List (Step AccountId)} (hgenesis : config.build = some s₀)
    (hrun : run next is s₀ = some s) (hids : ∀ x ∈ trace next is s₀, x.1.KeepsIds x.2.1)
    (loanId : LoanId) :
    collect next (Step.loanEvent loanId) is s₀ = [] ∧ s.saving.loans.get? loanId = none ∨
      ∃ debt changes, (∀ e ∈ changes, e.ChangedBy debt.who) ∧
        (collect next (Step.loanEvent loanId) is s₀ = .granted debt :: changes ∧
            (∃ status, s.saving.loans.get? loanId =
              some ((debt.after changes).record loanId status)) ∨
          ∃ e, e.ClosedBy debt.who ∧
            collect next (Step.loanEvent loanId) is s₀ = .granted debt :: changes ++ [e] ∧
              s.saving.loans.get? loanId = none) := by
  have hstart : s₀.HasLoan loanId .unused := by
    refine ⟨keysAreIds_of_reach (c := fun _ _ => True) hgenesis .refl, ?_, fun _ => rfl⟩
    rw [config.saving_of_build hgenesis]
    rfl
  obtain ⟨stage, hevents, hloan⟩ := (chain_simulates_loan loanId).follows hstart hrun hids
  have hdebt : (s.saving.loans.get? loanId).map Loan.debt = stage.debt := hloan.debt
  rcases LoanEvent.run_unused hevents with ⟨hnil, rfl⟩ | ⟨debt, changes, hall, hend⟩
  · exact Or.inl ⟨hnil, Option.map_eq_none_iff.mp hdebt⟩
  · refine Or.inr ⟨debt, changes, hall, ?_⟩
    rcases hend with ⟨hes, rfl⟩ | ⟨e, hclosed, hes, rfl⟩
    · obtain ⟨loan, hget, hsame⟩ := Option.map_eq_some_iff.mp hdebt
      refine Or.inl ⟨hes, loan.status, ?_⟩
      rw [hget, ← hsame, ← hloan.keys loanId loan hget, loan.record_debt]
    · exact Or.inr ⟨e, hclosed, hes, Option.map_eq_none_iff.mp hdebt⟩

/-- A loan is granted and drawn on. -/
theorem loan_life_example :
    ∃ s, run next [signedCall 5 (.applyLoan 2 100), signedCall 5 (.draw 0 50)] exampleState =
        some s ∧
      (s.saving.loans.get 0).loanBalanceTotal = 150 ∧
      ∃ debt changes, collect next (Step.loanEvent 0)
          [signedCall 5 (.applyLoan 2 100), signedCall 5 (.draw 0 50)] exampleState =
          .granted debt :: changes ∧
        ∃ status, s.saving.loans.get? 0 = some ((debt.after changes).record 0 status) := by
  obtain ⟨s₁, hfirst, s, hsecond, hkey, htotal⟩ := exists_of_any
    (p := fun s₁ => ∃ s, next (signedCall 5 (.draw 0 50)) s₁ = some s ∧
      s.saving.loans.containsKey 0 = true ∧ (s.saving.loans.get 0).loanBalanceTotal = 150)
    (o := next (signedCall 5 (.applyLoan 2 100)) exampleState) (by decide +kernel)
  have hrun : run next [signedCall 5 (.applyLoan 2 100), signedCall 5 (.draw 0 50)] exampleState =
      some s := run_append (run_singleton hfirst) (run_singleton hsecond)
  have hfits : exampleState.KeepsIds (signedCall 5 (.applyLoan 2 100)) :=
    fun _ _ => by decide +kernel
  have hids : ∀ x ∈ trace next [signedCall 5 (.applyLoan 2 100), signedCall 5 (.draw 0 50)]
      exampleState, x.1.KeepsIds x.2.1 := by
    rw [trace_cons_of_some hfirst, trace_cons_of_some hsecond]
    exact List.forall_mem_cons.mpr ⟨hfits, List.forall_mem_singleton.mpr trivial⟩
  refine ⟨s, hrun, htotal, ?_⟩
  have hfound := StorageMap.get?_of_containsKey hkey
  rcases loan_life exampleConfig_build hrun hids 0 with ⟨-, hnone⟩ | ⟨debt, changes, -, h | h⟩
  · exact absurd (hfound.symm.trans hnone) (Option.some_ne_none _)
  · exact ⟨debt, changes, h⟩
  · obtain ⟨-, -, -, hnone⟩ := h
    exact absurd (hfound.symm.trans hnone) (Option.some_ne_none _)

end MoneyPool
