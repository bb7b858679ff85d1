import MoneyPool.Interest
import MoneyPool.DepositLoan.Accrual

/-!
# The time that interest is charged for

Along a run every block works out an accrual (`MoneyPool.Step.accrual`), and interest would be for
the time between two of them (`MoneyPool.ChargesTime`). The time of the last distribution is
overwritten before it is read, so that no accrual is for any time
(`MoneyPool.DepositLoan.accrual_spec`): that is right only as long as the clock stands still.
-/

namespace MoneyPool

open Pallet Pallet.Exec DepositLoan RuntimeState

variable {AccountId : Type} [DecidableEq AccountId] {β : Build} {s : RuntimeState AccountId}

/-! ### One accrual -/

namespace DepositLoan

omit [DecidableEq AccountId] in
/-- Between a time and itself no time has passed, and no interest is due. -/
theorem accrue_spec {r : PoolRate AccountId} (h : r.currentTime = s.saving.bonusTime) :
    wp (accrue r : Prog β AccountId (Accrual AccountId))
      (fun a _ => a.toPoolRate = r ∧ a.timeDuration = 0 ∧ a.interestGenerated = 0)
      (fun _ _ => False) True s := by
  have hdiv : ∀ x : Balance, (0 : Balance) / x = 0 := fun x => BitVec.zero_udiv
  have hzero : ofU32 (0 : BitVec 32) = 0 := by decide
  have hnone : ((0 : Moment).setWidth 32 : BitVec 32) = 0 := by decide
  simp only [accrue, wp_bind, wp_gets, wp_sub, wp_unwrap_tryInto, wp_mul, wp_div, wp_pure, h,
    sub_self, hzero, hnone, zero_mul, hdiv, imp_true_iff, true_and, and_self]

/-- The time of the last distribution is overwritten with the time at hand. -/
theorem currentRate_spec :
    wp (currentRate : Prog β AccountId (Option (PoolRate AccountId)))
      (fun r t => (∀ a ∈ r, a.currentTime = s.now) ∧ t.saving.bonusTime = s.now)
      (fun _ _ => False) True s := by
  simp only [currentRate, wp_bind, wp_gets, wp_add, wp_modify, wp_ite, wp_pure,
    wp_unwrap_checkedMul, wp_div, imp_true_iff, true_and]
  refine fun _ _ => ⟨fun _ _ _ => ?_, fun _ =>
    ⟨fun _ h => absurd h (Option.not_mem_none _), trivial⟩⟩
  refine wp_mono loanInterestRate_spec ?_ (fun _ _ h => h) id
  rintro _ _ rfl
  refine ⟨?_, rfl⟩
  rintro _ ⟨⟩
  rfl

/-- **No accrual is for any time**, whatever the clock says and however the code is built. -/
theorem accrual_spec :
    wp (accrual : Prog β AccountId (Option (Accrual AccountId)))
      (fun r _ => ∀ a ∈ r, a.currentTime = s.now ∧ a.timeDuration = 0 ∧ a.interestGenerated = 0)
      (fun _ _ => False) True s := by
  rw [accrual, wp_bind]
  refine wp_mono currentRate_spec ?_ (fun _ _ h => h) id
  rintro (_ | r) t ⟨htime, hbonus⟩
  · rintro _ ⟨⟩
  · have hnow := htime r rfl
    rw [wp_bind]
    refine wp_mono (accrue_spec (hnow.trans hbonus.symm)) ?_ (fun _ _ h => h) id
    rintro a _ ⟨rfl, hduration, hinterest⟩
    rintro _ ⟨⟩
    exact ⟨hnow, hduration, hinterest⟩

variable [Inhabited AccountId]

/-- What a block has worked out when it begins to charge, unless the module is paused. -/
def blockAccrual (height : BlockNumber) : Prog β AccountId (Option (Accrual AccountId)) := do
  if (← gets fun s => s.saving.paused) = false then do
    onEachBlock height
    accrual
  else pure none

/-- **The hook of a block** works out an accrual, if there is one to be made, and shares it. -/
theorem onInitialize_eq (height : BlockNumber) :
    (onInitialize height : Prog β AccountId Unit) =
      blockAccrual height >>= fun a => a.elim (pure ()) shareInterest := by
  simp only [onInitialize, blockAccrual, bind_assoc]
  refine bind_congr fun paused => ?_
  split
  · rw [bind_assoc, ← calculateLoanInterestRate_eq]
  · rw [pure_bind, Option.elim_none]

end DepositLoan

/-! ### Runs -/

/-- **Interest is for the time that has passed** along a list of accruals: each but the first is
for the time since the one before, all together are for the time since the first, and where the
time is enough for some interest there is some. -/
structure ChargesTime (accruals : List (Accrual AccountId)) : Prop where
  consecutive : accruals.IsChain fun a b =>
    a.currentTime.toNat + b.timeDuration.toNat = b.currentTime.toNat
  total : ∀ first ∈ accruals.head?, ∀ last ∈ accruals.getLast?,
    first.currentTime.toNat + (accruals.tail.map fun a => a.timeDuration.toNat).sum =
      last.currentTime.toNat
  interest : accruals.IsChain fun a b =>
    secPerDay.toNat * daysPerYear.toNat ≤ (b.currentTime.toNat - a.currentTime.toNat) *
      b.totalLoan.toNat * b.loanInterestRateCurrent.toNat → 0 < b.interestGenerated

/-- Differences add up. -/
theorem telescope {α : Type} {time duration : α → ℕ} {a : α} {as : List α}
    (h : (a :: as).IsChain fun a b => time a + duration b = time b) :
    ∀ last ∈ (a :: as).getLast?, time a + (as.map duration).sum = time last := by
  induction as generalizing a with
  | nil =>
    rintro _ ⟨⟩
    exact Nat.add_zero _
  | cons b as ih =>
    rw [List.isChain_cons_cons] at h
    intro last hlast
    rw [List.getLast?_cons_cons] at hlast
    rw [List.map_cons, List.sum_cons, ← Nat.add_assoc, h.1]
    exact ih h.2 last hlast

variable [Inhabited AccountId]

/-- What a step works out when it begins to charge. -/
def Step.accrual (i : Step AccountId) (s : RuntimeState AccountId) : Option (Accrual AccountId) :=
  match i with
  | .onInitialize height =>
    match (blockAccrual height : Prog .release AccountId (Option (Accrual AccountId))) s with
    | .ok a _ => a
    | _ => none
  | _ => none

/-- The accruals of a run. -/
def accruals (steps : List (Step AccountId)) (s : RuntimeState AccountId) :
    List (Accrual AccountId) := collect next Step.accrual steps s

/-- No accrual of a run is for any time. -/
theorem no_time_of_mem_accruals (steps : List (Step AccountId)) (s : RuntimeState AccountId) :
    ∀ a ∈ accruals steps s, a.timeDuration = 0 ∧ a.interestGenerated = 0 := by
  refine forall_mem_collect ?_ steps s
  intro i s a ha
  cases i with
  | onInitialize height =>
    have hspec : wp (blockAccrual height : Prog .release AccountId (Option (Accrual AccountId)))
        (fun r _ => ∀ a ∈ r, a.timeDuration = 0 ∧ a.interestGenerated = 0) (fun _ _ => True)
        True s := by
      simp only [blockAccrual, wp_bind, wp_gets, wp_ite, wp_pure]
      refine ⟨fun _ => ?_, fun _ _ h => absurd h (Option.not_mem_none _)⟩
      refine wp_mono onEachBlock_spec (fun _ t _ => ?_) (fun _ _ _ => trivial) id
      exact wp_mono accrual_spec (fun r _ h a ha => (h a ha).2) (fun _ _ _ => trivial) id
    rw [Step.accrual] at ha
    split at ha
    · rename_i hrun
      exact (wp_of_ok hrun).mp hspec a ha
    · cases ha
  | extrinsic => cases ha
  | timestamp => cases ha
  | onFinalize => cases ha

/-- **Interest is charged for the time that has passed** if and only if none has: in every run,
from every state, the clock stands still between any two accruals. -/
theorem charges_time_iff (steps : List (Step AccountId)) (s : RuntimeState AccountId) :
    ChargesTime (accruals steps s) ↔
      (accruals steps s).IsChain fun a b => a.currentTime = b.currentTime := by
  have hnone := no_time_of_mem_accruals steps s
  have hzero : (0 : BitVec 32).toNat = 0 := rfl
  generalize accruals steps s = as at hnone ⊢
  have hiff : (as.IsChain fun a b =>
      a.currentTime.toNat + b.timeDuration.toNat = b.currentTime.toNat) ↔
      as.IsChain fun a b => a.currentTime = b.currentTime := by
    refine List.IsChain.iff_of_mem_imp fun a b _ hb => ?_
    rw [(hnone b hb).1, hzero, Nat.add_zero, BitVec.toNat_inj]
  constructor
  · intro h
    exact hiff.mp h.consecutive
  · intro hstill
    have hchain := hiff.mpr hstill
    refine ⟨hchain, ?_, ?_⟩
    · cases as with
      | nil => exact fun _ h => nomatch h
      | cons a as =>
        rintro _ ⟨⟩
        exact telescope hchain
    · refine hstill.imp fun a b heq hreached => ?_
      rw [heq, Nat.sub_self, Nat.zero_mul, Nat.zero_mul] at hreached
      exact absurd hreached (by decide)

/-- A step of a chain in order: a block begins with an open module and a pool that is not empty,
and the clock is set forward, by less than 32 bits. -/
def RuntimeState.Orderly (s : RuntimeState AccountId) : Step AccountId → Bool
  | .onInitialize _ => s.saving.paused = false ∧ s.pool ≠ 0
  | .timestamp now => s.now ≤ now ∧ now.toNat < s.now.toNat + 2 ^ 32
  | _ => true

/-- **Ten minutes cost nothing**: the clock is set to 600 between two blocks, and the accrual of
the second is for no time. -/
theorem not_charges_time : ¬∀ steps : List (Step ℕ),
    (∀ e ∈ trace next steps exampleState, e.1.Orderly e.2.1 = true) →
      ChargesTime (accruals steps exampleState) := by
  intro h
  have hcharges := h [.onInitialize 1, .timestamp 600, .onInitialize 2] (by decide +kernel)
  have htimes : (accruals [.onInitialize 1, .timestamp 600, .onInitialize 2] exampleState).map
      (fun a => (a.currentTime, a.timeDuration)) = [(0, 0), (600, 0)] := by
    decide +kernel
  have hchain : ((accruals [.onInitialize 1, .timestamp 600, .onInitialize 2] exampleState).map
      fun a => (a.currentTime, a.timeDuration)).IsChain
        fun a b => a.1.toNat + b.2.toNat = b.1.toNat :=
    (List.isChain_map _).mpr hcharges.consecutive
  rw [htimes] at hchain
  exact absurd hchain (by decide)

end MoneyPool
