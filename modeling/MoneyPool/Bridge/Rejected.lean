import MoneyPool.Bridge.Effect

/-!
# Deposits that are rejected

A transaction counts as seen from the moment its deposit is about to be credited. If the deposit
cannot be credited after all, the call fails, and an error undoes nothing: the transaction stays
seen and can never be reported again. `MoneyPool.Bridge.rejects_cleanly_iff` says which deposits
that can happen to.
-/

namespace MoneyPool

namespace Bridge

open Pallet Pallet.Exec

variable {AccountId : Type} [DecidableEq AccountId] {β : Build} {s : State AccountId}
  {origin : Origin AccountId} {account who : AccountId} {amount : Balance} {txHash : TxHash}

/-! ### What becomes of a deposit -/

namespace State

variable (s : State AccountId)

/-- A deposit has to wait: it is large, and its account is not marked white. -/
def MustWait (account : AccountId) (amount : Balance) : Prop :=
  s.bridge.threshold ≤ amount ∧
    (s.bridge.checkList account = none ∨ s.bridge.checkList account = some .black)

variable (β) in
/-- **A rejected deposit leaves no trace.** -/
def RejectsCleanly (origin : Origin AccountId) (account : AccountId) (amount : Balance)
    (txHash : TxHash) : Prop :=
  ∀ e t, (deposit origin account amount txHash : Prog β AccountId Unit) s = .err e t → t = s

end State

theorem rejectsCleanly_iff_wp : s.RejectsCleanly β origin account amount txHash ↔
    wp (deposit origin account amount txHash : Prog β AccountId Unit) (fun _ _ => True)
      (fun _ t => t = s) True s := by
  constructor
  · intro h
    rcases cases_of_wp (wp_trivial (x := (deposit origin account amount txHash :
      Prog β AccountId Unit)) (s := s)) with ⟨_, _, hx, -⟩ | ⟨e, t, hx, -⟩ | ⟨hx, -⟩
    · exact (wp_of_ok hx).mpr trivial
    · exact (wp_of_err hx).mpr (h e t hx)
    · exact (wp_of_panic hx).mpr trivial
  · intro h e t hx
    exact (wp_of_err hx).mp h

/-- Holding a deposit returns no error. -/
theorem holdDeposit_spec :
    wp (holdDepositWithEvent account amount txHash : Prog β AccountId Unit) (fun _ _ => True)
      (fun _ _ => False) True s := by
  simp only [holdDepositWithEvent, depositEvent, wp_bind, wp_modify]

omit [DecidableEq AccountId] in
/-- A transaction that did not count as seen does so now. -/
theorem seen_ne (hfresh : s.bridge.isTxSeen txHash = false) : s.seen account amount txHash ≠ s := by
  intro heq
  have hseen : (s.seen account amount txHash).bridge.isTxSeen txHash = true := by
    rw [Store.isTxSeen, State.seen, StorageMap.containsKey_iff_exists]
    exact ⟨_, (StorageMap.get?_insert ..).trans (if_pos rfl)⟩
  rw [heq, hfresh] at hseen
  cases hseen

/-- **Crediting a new deposit** leaves no trace where it fails, if and only if it does not fail. -/
theorem wp_simpleDeposit_iff (hfresh : s.bridge.isTxSeen txHash = false) :
    wp (simpleDepositWithEvent account amount txHash : Prog β AccountId Unit) (fun _ _ => True)
      (fun _ t => t = s) True s ↔ s.CanCredit account amount := by
  rcases simpleDeposit_cases (β := β) s account amount txHash with ⟨hcan, hx⟩ | ⟨hno, e, hx⟩
  · exact iff_of_true ((wp_of_ok hx).mpr trivial) hcan
  · rw [wp_of_err hx]
    exact iff_of_false (seen_ne hfresh) hno

/-- **A rejected deposit leaves no trace** if and only if it is turned down in the checks, waits, or
can be credited. -/
theorem rejects_cleanly_iff : s.RejectsCleanly β origin account amount txHash ↔
    s.bridge.isTxSeen txHash = true ∨
      (∀ who, origin = .signed who → s.bridge.hasAuth who .deposit = false) ∨
        s.MustWait account amount ∨ s.CanCredit account amount := by
  have hhold : wp (holdDepositWithEvent account amount txHash : Prog β AccountId Unit)
      (fun _ _ => True) (fun _ t => t = s) True s :=
    wp_mono holdDeposit_spec (fun _ _ h => h) (fun _ _ h => h.elim) id
  rw [rejectsCleanly_iff_wp]
  simp only [deposit, wp_bind, wp_gets, wp_ensure, wp_ensureSigned, wp_ite, hhold, imp_true_iff,
    true_and, and_true]
  constructor
  · intro h
    cases hseen : s.bridge.isTxSeen txHash with
    | true => exact Or.inl rfl
    | false =>
      refine Or.inr ?_
      by_cases hauth : ∃ who, origin = .signed who ∧ s.bridge.hasAuth who .deposit = true
      · obtain ⟨who, horigin, hauth⟩ := hauth
        by_cases hwait : s.MustWait account amount
        · exact Or.inr (Or.inl hwait)
        · exact Or.inr (Or.inr ((wp_simpleDeposit_iff hseen).mp (h hseen who horigin hauth hwait)))
      · refine Or.inl fun who horigin => ?_
        exact Bool.eq_false_iff.mpr fun htrue => hauth ⟨who, horigin, htrue⟩
  · intro h hfresh who horigin hauth hnow
    rcases h with hseen | hno | hwait | hcan
    · cases hfresh.symm.trans hseen
    · cases hauth.symm.trans (hno who horigin)
    · exact absurd hwait hnow
    · exact (wp_simpleDeposit_iff hfresh).mpr hcan

/-- **A transaction is lost**: account 5 holds nearly all that can be issued, a deposit of one more
is rejected, and its transaction counts as seen. -/
theorem not_rejects_cleanly : ¬∀ s : State ℕ, Reachable (next .release) exampleState s →
    ∀ origin account amount txHash, s.RejectsCleanly .release origin account amount txHash := by
  intro h
  obtain ⟨s, hrun, hany⟩ := exists_of_any
    (p := fun s => (((deposit (.signed 2) 5 1 2 : Prog .release ℕ Unit) s).errState.any fun t =>
      decide (s.bridge.isTxSeen 2 = false ∧ t.bridge.isTxSeen 2 = true)) = true)
    (o := run (next .release) [.bridge (.signed 2) (.markWhite 5),
      .bridge (.signed 2) (.deposit 5 (2 ^ 128 - 1) 1)] exampleState) (by decide +kernel)
  obtain ⟨t, ht, hfresh, hseen⟩ := exists_of_any hany
  obtain ⟨e, hx⟩ := Outcome.eq_err_of_errState ht
  rw [h s (reachable_of_run hrun) (.signed 2) 5 1 2 e t hx, hfresh] at hseen
  cases hseen

end Bridge

end MoneyPool
