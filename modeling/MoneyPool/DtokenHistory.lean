import MoneyPool.Depositors

/-!
# What the dtokens of an account are

A pool that starts at par stays at par, in every run of the whole chain: interest is only ever
announced, never paid in, so that no step moves the value of a dtoken. Nor does any step take
dtokens from an account. What an account has is therefore the sum of all that was ever staked for it
– by itself, by the administrator, and by each redeem that has put back what was not asked for
(`MoneyPool.dtokens_are_stakes`).
-/

namespace MoneyPool

open Pallet Pallet.Exec DepositLoan RuntimeState

variable {AccountId : Type} [DecidableEq AccountId] [Inhabited AccountId]

instance (s : RuntimeState AccountId) (who : AccountId) (assetId : AssetId) (balance : Balance) :
    Decidable (s.CanStake who assetId balance) :=
  decidable_of_iff (balance ≠ 0 ∧ balance ≤ s.assets.free assetId who ∧
      (s.saving.totalDtoken ≠ 0 → balance.toNat * s.saving.marketDtoken.toNat < 2 ^ 128) ∧
      (s.saving.userDtoken.get who).toNat + (s.dtokens balance).toNat < 2 ^ 128 ∧
      s.saving.marketDtoken.toNat + (s.dtokens balance).toNat < 2 ^ 128 ∧
      s.saving.marketDtoken.toNat + balance.toNat < 2 ^ 128)
    ⟨fun h => ⟨h.1, h.2.1, h.2.2.1, h.2.2.2.1, h.2.2.2.2.1, h.2.2.2.2.2⟩,
      fun h => ⟨h.ne_zero, h.covered, h.product, h.entry, h.market, h.total⟩⟩

/-- What a redeem puts back: what the dtokens are worth beyond what was asked for, if it can be
staked. -/
def RuntimeState.putBack (s : RuntimeState AccountId) (who : AccountId) (assetId : AssetId)
    (amount : Balance) : ℕ :=
  if (s.paidOut who).CanStake who assetId (s.redeemable who - amount)
  then (s.redeemable who - amount).toNat else 0

/-- What a step stakes for an account, if it succeeds. -/
def Step.stakesFor (who : AccountId) (i : Step AccountId) (s : RuntimeState AccountId) : ℕ :=
  match i.stake, i.redeem with
  | some (w, _, amount), _ => if who = w then amount.toNat else 0
  | none, some (w, assetId, amount) => if who = w then s.putBack w assetId amount else 0
  | none, none => 0

/-- **What a step stakes for an account**: nothing, if it fails. -/
def Step.stakedFor (who : AccountId) (i : Step AccountId) (s : RuntimeState AccountId) : ℕ :=
  if i.succeeds s = true then i.stakesFor who s else 0

section Steps

variable {s s' : RuntimeState AccountId} {i : Step AccountId} {ok : Bool} {who w : AccountId}
  {assetId : AssetId} {amount : Balance}

omit [Inhabited AccountId] in
theorem stakesFor_of_stake (h : i.stake = some (w, assetId, amount)) :
    i.stakesFor who s = if who = w then amount.toNat else 0 := by
  rw [Step.stakesFor, h]

omit [Inhabited AccountId] in
theorem stakesFor_of_redeem (h : i.redeem = some (w, assetId, amount)) :
    i.stakesFor who s = if who = w then s.putBack w assetId amount else 0 := by
  rw [Step.stakesFor, stake_eq_none h, h]

omit [Inhabited AccountId] in
/-- **A redeem at par** gives an account the dtokens of what it puts back, and takes none. -/
theorem RuntimeState.AtPar.userDtoken_redeemed (hpar : s.AtPar)
    (hcan : s.CanRedeem w assetId amount) (h : s.Redeemed w assetId amount s') :
    s'.AtPar ∧ (s'.saving.userDtoken.get who).toNat =
      (s.saving.userDtoken.get who).toNat + if who = w then s.putBack w assetId amount else 0 := by
  have hpaid : (s.paidOut w).AtPar := hpar.paidOut hcan.total
  cases h with
  | restaked hstake =>
    refine ⟨hpaid.staked hstake, ?_⟩
    rw [hpaid.userDtoken_staked hstake, paidOut_userDtoken, putBack, if_pos hstake]
  | kept hno =>
    have hstake : ¬(s.paidOut w).CanStake w assetId (s.redeemable w - amount) := fun hstake =>
      hno.elim hstake.ne_zero fun hle => hle hstake.covered
    refine ⟨hpaid, ?_⟩
    rw [paidOut_userDtoken, putBack, if_neg hstake, ite_self, add_zero]

/-- The steps of a hook leave the dtokens alone. -/
theorem RuntimeState.HookStep.dtokens (h : s.HookStep s') :
    s'.saving.userDtoken = s.saving.userDtoken ∧ s'.saving.marketDtoken = s.saving.marketDtoken ∧
      s'.saving.totalDtoken = s.saving.totalDtoken := by
  cases h <;> exact ⟨rfl, rfl, rfl⟩

omit [DecidableEq AccountId] [Inhabited AccountId] in
/-- A setting leaves the dtokens alone. -/
theorem setting_dtokens {t : DepositLoan.Store AccountId} {call : DepositLoan.Call AccountId}
    {f : DepositLoan.Store AccountId → DepositLoan.Store AccountId} (h : call.setting = some f) :
    (f t).userDtoken = t.userDtoken ∧ (f t).marketDtoken = t.marketDtoken ∧
      (f t).totalDtoken = t.totalDtoken := by
  cases call <;> cases h <;> exact ⟨rfl, rfl, rfl⟩

/-- **A step at par** stays at par, and adds to the dtokens of an account what it stakes for it. -/
theorem Effect.dtokens_add (h : Effect s i ok s') (hpar : s.AtPar) :
    s'.AtPar ∧ (s'.saving.userDtoken.get who).toNat = (s.saving.userDtoken.get who).toNat +
      if ok = true then i.stakesFor who s else 0 := by
  have hsame (hu : s'.saving.userDtoken = s.saving.userDtoken)
      (hm : s'.saving.marketDtoken = s.saving.marketDtoken)
      (ht : s'.saving.totalDtoken = s.saving.totalDtoken)
      (hnone : (if ok = true then i.stakesFor who s else 0) = 0) :
      s'.AtPar ∧ (s'.saving.userDtoken.get who).toNat = (s.saving.userDtoken.get who).toNat +
        if ok = true then i.stakesFor who s else 0 := by
    rw [AtPar, hm, ht, hu, hnone]
    exact ⟨hpar, rfl⟩
  cases h with
  | staked w assetId amount hi _ _ hcan =>
    rw [if_pos rfl, stakesFor_of_stake hi]
    exact ⟨hpar.staked hcan, hpar.userDtoken_staked hcan⟩
  | redeemed w assetId amount hi _ hcan hred =>
    rw [if_pos rfl, stakesFor_of_redeem hi]
    exact hpar.userDtoken_redeemed hcan hred
  | set call f hf =>
    obtain ⟨hu, hm, ht⟩ := setting_dtokens (t := s.saving) hf
    refine hsame hu hm ht ?_
    cases call <;> cases hf <;> rfl
  | oracleCall origin call => exact hsame rfl rfl rfl (by cases origin <;> exact ite_self 0)
  | ledgerCall origin call => exact hsame rfl rfl rfl (by cases origin <;> rfl)
  | aggregated => exact hsame rfl rfl rfl (ite_self 0)
  | hook _ hst =>
    suffices hall : s'.saving.userDtoken = s.saving.userDtoken ∧
        s'.saving.marketDtoken = s.saving.marketDtoken ∧
        s'.saving.totalDtoken = s.saving.totalDtoken from hsame hall.1 hall.2.1 hall.2.2 rfl
    clear hsame
    induction hst with
    | refl => exact ⟨rfl, rfl, rfl⟩
    | tail _ hstep ih =>
      obtain ⟨hu, hm, ht⟩ := hstep.dtokens
      exact ⟨hu.trans ih.1, hm.trans ih.2.1, ht.trans ih.2.2⟩
  | _ => exact hsame rfl rfl rfl rfl

end Steps

/-! ### Runs -/

/-- **The dtokens of an account are its stakes**, and they are at par: in every run of the chain
from a genesis with as many dtokens as they are worth, what all of them are worth stays their
number, and an account has as many as have been staked for it: by itself, by the administrator and,
in every redeem, by putting back what was not asked for. -/
theorem dtokens_are_stakes {config : GenesisConfig AccountId} {s₀ s : RuntimeState AccountId}
    {is : List (Step AccountId)} (hgenesis : config.build = some s₀)
    (hequal : config.depositLoan.marketDtoken = config.depositLoan.totalDtoken)
    (hrun : run next is s₀ = some s) (who : AccountId) :
    s.saving.marketDtoken = s.saving.totalDtoken ∧
      (s.saving.userDtoken.get who).toNat =
        ((trace next is s₀).map fun x => x.2.1.stakedFor who x.1).sum := by
  have hsaving := config.saving_of_build hgenesis
  have hpar : s₀.AtPar := by
    rw [AtPar, hsaving]
    exact hequal
  have hnone : (s₀.saving.userDtoken.get who).toNat = 0 := by
    rw [hsaving]
    rfl
  obtain ⟨hend, hsum⟩ := sum_trace
    (f := fun s : RuntimeState AccountId => (s.saving.userDtoken.get who).toNat)
    (g := fun s i => i.stakedFor who s) (I := AtPar)
    (fun i s s' h hnext => (effect_of_next hnext).dtokens_add h) hpar hrun
  rw [hnone, zero_add] at hsum
  exact ⟨hend, hsum⟩

/-- Account 5 stakes 100, the administrator stakes 50 for it, and it redeems 30. -/
def exampleStakes : List (Step ℕ) :=
  [signedCall 5 (.staking 0 100), .extrinsic .root (.depositLoan (.sudoStaking 0 50 5)),
    signedCall 5 (.redeem 0 30)]

theorem dtokens_are_stakes_example :
    ∃ s, run next exampleStakes exampleState = some s ∧ s.saving.userDtoken.get 5 = 270 ∧
      (s.saving.userDtoken.get 5).toNat =
        ((trace next exampleStakes exampleState).map fun x => x.2.1.stakedFor 5 x.1).sum := by
  obtain ⟨s, hrun, hhas⟩ := exists_of_any (p := fun s => s.saving.userDtoken.get 5 = 270)
    (o := run next exampleStakes exampleState) (by decide +kernel)
  exact ⟨s, hrun, hhas, (dtokens_are_stakes exampleConfig_build rfl hrun 5).2⟩

end MoneyPool
