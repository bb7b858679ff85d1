import MoneyPool.Draws

/-!
# The cap on the loans

An application is refused once the total of the loans has reached the cap, whatever it asks for,
and a draw does not look at the cap at all. `MoneyPool.cap_holds_iff` says what keeps the total
under the cap along a run of both: that every one of them that passes its checks asks for no more
than what is left under the cap.
-/

namespace MoneyPool

open Pallet Pallet.Exec DepositLoan RuntimeState

variable {AccountId : Type} [DecidableEq AccountId] [Inhabited AccountId]
  {s s' : RuntimeState AccountId} {i : Step AccountId} {who : AccountId} {loanId : LoanId}
  {amount : Balance}

/-! ### Borrowing -/

/-- The two calls that lend. -/
def Step.borrows : Step AccountId → Bool
  | .extrinsic _ (.depositLoan (.applyLoan _ _)) => true
  | .extrinsic _ (.depositLoan (.draw _ _)) => true
  | _ => false

/-- **A step asks for an amount** in a state in which it passes its checks. An amount that is left
to the code is the one the limit allows. -/
inductive RuntimeState.Asks (s : RuntimeState AccountId) : Step AccountId → Balance → Prop
  /-- A loan that can be granted. -/
  | applied (who : AccountId) (collateralAmount loanAmount : Balance)
      (hopen : s.saving.paused = false)
      (h : s.CanApply .release who collateralAmount loanAmount) :
      Asks s (.extrinsic (.signed who) (.depositLoan (.applyLoan collateralAmount loanAmount)))
        (s.terms collateralAmount loanAmount).loanAmount
  /-- A draw that is covered. -/
  | drew (who : AccountId) (loanId : LoanId) (amount : Balance) (hopen : s.saving.paused = false)
      (h : s.CanDraw who loanId amount) :
      Asks s (.extrinsic (.signed who) (.depositLoan (.draw loanId amount))) amount

/-- **The total is under the cap**, if there is one. -/
def RuntimeState.UnderCap (s : RuntimeState AccountId) : Prop :=
  ∀ cap, s.saving.loanCap = some cap → s.saving.totalLoan ≤ cap

/-- **A step leaves the cap alone**: it asks for no more than what is left under the cap, or for so
much that the total comes round. -/
def RuntimeState.FitsCap (s : RuntimeState AccountId) (i : Step AccountId) : Prop :=
  ∀ amount cap, s.Asks i amount → s.saving.loanCap = some cap →
    s.saving.totalLoan.toNat + amount.toNat ≤ cap.toNat ∨
      2 ^ 128 ≤ s.saving.totalLoan.toNat + amount.toNat

/-! ### One step -/

/-- A draw that passes its checks leads to the state with the draw. -/
theorem next_draw (hopen : s.saving.paused = false) (h : s.CanDraw who loanId amount) :
    next (.extrinsic (.signed who) (.depositLoan (.draw loanId amount))) s =
      some (s.drawn loanId amount) := by
  have hok : (Step.exec (.extrinsic (.signed who) (.depositLoan (.draw loanId amount))) :
      Prog .release AccountId Unit) s = .ok () (s.drawn loanId amount) := by
    refine eq_ok_of_wp ?_
    simp only [Step.exec, MoneyPool.dispatch, DepositLoan.dispatch, draw, wp_bind, wp_gets,
      wp_ensure, wp_ensureSigned]
    refine ⟨fun _ => ⟨?_, fun hno => hno who rfl⟩, fun hno => hno hopen⟩
    rintro _ ⟨⟩
    exact (wp_of_ok (drawFromLoan_ok h (creditFits_release _))).mpr rfl
  rw [next, hok]

/-- A step that asks for an amount adds it to the total. -/
theorem RuntimeState.Asks.next (h : s.Asks i amount) : ∃ s', MoneyPool.next i s = some s' ∧
    s'.saving.loanCap = s.saving.loanCap ∧ s'.saving.totalLoan = s.saving.totalLoan + amount := by
  cases h with
  | applied who collateralAmount loanAmount hopen hcan =>
    exact ⟨_, next_applyLoan hopen hcan, rfl, rfl⟩
  | drew who loanId amount hopen hcan => exact ⟨_, next_draw hopen hcan, rfl, rfl⟩

omit [DecidableEq AccountId] [Inhabited AccountId] in
/-- The two calls, for any origin. -/
theorem Step.cases_of_borrows (h : i.borrows = true) : ∃ origin,
    (∃ collateralAmount loanAmount,
      i = .extrinsic origin (.depositLoan (.applyLoan collateralAmount loanAmount))) ∨
    ∃ loanId amount, i = .extrinsic origin (.depositLoan (.draw loanId amount)) := by
  unfold borrows at h
  split at h
  · exact ⟨_, Or.inl ⟨_, _, rfl⟩⟩
  · exact ⟨_, Or.inr ⟨_, _, rfl⟩⟩
  · cases h

omit [DecidableEq AccountId] [Inhabited AccountId] in
/-- Lending is neither staking nor redeeming. -/
theorem Step.stake_of_borrows (h : i.borrows = true) : i.stake = none ∧ i.redeem = none := by
  obtain ⟨origin, ⟨_, _, rfl⟩ | ⟨_, _, rfl⟩⟩ := Step.cases_of_borrows h <;> cases origin <;>
    exact ⟨rfl, rfl⟩

/-- **What lending does to the total**: nothing, unless it asks for an amount. -/
theorem total_of_borrows (hi : i.borrows = true) (h : next i s = some s') :
    s'.saving.loanCap = s.saving.loanCap ∧
      (s'.saving.totalLoan = s.saving.totalLoan ∨ ∃ amount, s.Asks i amount) := by
  obtain ⟨ok, heffect⟩ := next_effect h
  obtain ⟨hnostake, hnoredeem⟩ := Step.stake_of_borrows hi
  obtain ⟨origin, ⟨collateralAmount, loanAmount, rfl⟩ | ⟨loanId, amount, rfl⟩⟩ :=
    Step.cases_of_borrows hi
  · cases heffect with
    | granted who _ _ hopen hcan => exact ⟨rfl, Or.inr ⟨_, .applied who _ _ hopen hcan⟩⟩
    | unchanged => exact ⟨rfl, Or.inl rfl⟩
    | taken => exact ⟨rfl, Or.inl rfl⟩
    | set _ _ hset => cases hset
    | staked _ _ _ hstake => cases hnostake.symm.trans hstake
    | redeemed _ _ _ hredeem => cases hnoredeem.symm.trans hredeem
  · cases heffect with
    | drawn who _ _ hopen hcan => exact ⟨rfl, Or.inr ⟨_, .drew who _ _ hopen hcan⟩⟩
    | unchanged => exact ⟨rfl, Or.inl rfl⟩
    | set _ _ hset => cases hset
    | staked _ _ _ hstake => cases hnostake.symm.trans hstake
    | redeemed _ _ _ hredeem => cases hnoredeem.symm.trans hredeem

/-- **A step keeps the total under the cap** exactly if it leaves the cap alone. -/
theorem underCap_next_iff (hi : i.borrows = true) (hcap : s.UnderCap) (h : next i s = some s') :
    s'.UnderCap ↔ s.FitsCap i := by
  obtain ⟨hsame, htotal⟩ := total_of_borrows hi h
  rw [UnderCap, hsame]
  constructor
  · intro hunder amount cap hask hsome
    obtain ⟨t, hnext, -, hsum⟩ := hask.next
    cases h.symm.trans hnext
    have hle := BitVec.le_def.mp (hunder cap hsome)
    rw [hsum, BitVec.toNat_add] at hle
    rcases Nat.lt_or_ge (s.saving.totalLoan.toNat + amount.toNat) (2 ^ 128) with hlt | hge
    · rw [Nat.mod_eq_of_lt hlt] at hle
      exact Or.inl hle
    · exact Or.inr hge
  · intro hfits cap hsome
    have hle := BitVec.le_def.mp (hcap cap hsome)
    rcases htotal with heq | ⟨amount, hask⟩
    · rw [heq]
      exact hcap cap hsome
    · obtain ⟨t, hnext, -, hsum⟩ := hask.next
      cases h.symm.trans hnext
      rw [hsum, BitVec.le_def]
      -- a total that comes round is less than it was
      rcases toNat_add_cases s.saving.totalLoan amount with heq | heq
      · rcases hfits amount cap hask hsome with hroom | hround
        · omega
        · have hlt := (s.saving.totalLoan + amount).isLt
          omega
      · have hlt := amount.isLt
        omega

/-! ### Runs -/

/-- **The cap holds** along a run of applications and draws, of any number and by anybody, if and
only if every one of them that passes its checks leaves the cap alone. -/
theorem cap_holds_iff {steps : List (Step AccountId)} (hcap : s.UnderCap)
    (hsteps : ∀ i ∈ steps, i.borrows = true) :
    (∀ e ∈ trace next steps s, e.2.2.UnderCap) ↔ ∀ e ∈ trace next steps s, e.1.FitsCap e.2.1 :=
  trace_invariant_iff (fun i hi _ _ hunder h => underCap_next_iff (hsteps i hi) hunder h) hcap

/-- The state of the example with a cap of 1000. -/
def cappedState : RuntimeState ℕ := exampleState.withSaving fun t => { t with loanCap := some 1000 }

theorem underCap_cappedState : cappedState.UnderCap := by
  rintro _ ⟨⟩
  decide +kernel

/-- A loan of 100 under a cap of 1000. -/
theorem cap_holds_example : (next (signedCall 5 (.applyLoan 3 100)) cappedState).isSome = true ∧
    ∀ e ∈ trace next [signedCall 5 (.applyLoan 3 100)] cappedState, e.2.2.UnderCap := by
  obtain ⟨s, hrun, -⟩ := exists_of_any (p := fun _ => True)
    (o := next (signedCall 5 (.applyLoan 3 100)) cappedState) (by decide +kernel)
  refine ⟨Option.isSome_iff_exists.mpr ⟨s, hrun⟩,
    (cap_holds_iff underCap_cappedState (by decide)).mpr ?_⟩
  rw [trace_cons_of_some hrun, trace_nil, List.forall_mem_singleton]
  rintro _ _ ⟨⟩ ⟨⟩
  have hroom : cappedState.saving.totalLoan.toNat + (cappedState.terms 3 100).loanAmount.toNat ≤
      (1000 : Balance).toNat := by decide +kernel
  exact Or.inl hroom

/-- **A loan of 2000 under a cap of 1000** is granted, because nothing has been lent before. -/
theorem cap_broken : ¬∀ steps : List (Step ℕ), (∀ i ∈ steps, i.borrows = true) →
    ∀ e ∈ trace next steps cappedState, e.2.2.UnderCap := by
  intro h
  obtain ⟨s, hrun, hcap, htotal⟩ := exists_of_any
    (p := fun s => s.saving.loanCap = some 1000 ∧ ¬s.saving.totalLoan ≤ 1000)
    (o := next (signedCall 5 (.applyLoan 40 2000)) cappedState) (by decide +kernel)
  have hunder := h [signedCall 5 (.applyLoan 40 2000)] (by decide)
  rw [trace_cons_of_some hrun] at hunder
  exact htotal (hunder _ (List.mem_cons_self ..) 1000 hcap)

end MoneyPool
