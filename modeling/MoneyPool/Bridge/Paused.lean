import MoneyPool.Bridge.Vault

/-!
# The switch that nobody reads

The pallet has a switch that pauses it, and no call looks at it. What a paused pallet refuses is
what it would refuse anyway, for another reason (`MoneyPool.Bridge.State.Refuses`), and all other
calls go on as before. `MoneyPool.Bridge.paused_inert_iff` says this of all runs.
-/

namespace MoneyPool

namespace Bridge

open Pallet Pallet.Exec

variable {AccountId : Type} [DecidableEq AccountId] {β : Build}

/-- **The calls that the switch should stop**. -/
def Call.operates : Call AccountId → Prop
  | .pause => False
  | .resume => False
  | _ => True

namespace State

variable (s : State AccountId)

/-- **Nothing has changed**: the ledger is the same, and so are all records of the pallet. -/
structure Same (t : State AccountId) : Prop where
  assets : t.assets = s.assets
  pendingWithdraws : ∀ who, t.bridge.pendingWithdraws.get? who = s.bridge.pendingWithdraws.get? who
  pendingDepositList : ∀ account,
    t.bridge.pendingDepositList.get? account = s.bridge.pendingDepositList.get? account
  depositHistory : ∀ txHash,
    t.bridge.depositHistory.get? txHash = s.bridge.depositHistory.get? txHash
  list : ∀ account, t.bridge.list.get? account = s.bridge.list.get? account
  paused : t.bridge.paused = s.bridge.paused
  events : t.events = s.events

variable (β) in
/-- **A call is inert**: it returns an error and changes nothing. -/
def Inert (origin : Origin AccountId) (call : Call AccountId) : Prop :=
  ∃ e t, (dispatch origin call : Prog β AccountId Unit) s = .err e t ∧ s.Same t

/-- The first deposit that waits for the mark of an account cannot be credited, and is recorded as
seen. -/
def Stuck (account : AccountId) : Prop :=
  ∃ p ps txHash, s.bridge.pendingDepositList.get account = p :: ps ∧ p.txHash = some txHash ∧
    ¬s.CanCredit p.accountId p.amount ∧ s.bridge.depositHistory.get? txHash =
      some { txHash := none, amount := p.amount, accountId := p.accountId }

/-- **What the checks of a call refuse**, none of which is about the switch. -/
def Refuses (origin : Origin AccountId) : Call AccountId → Prop
  | .pause => False
  | .resume => False
  | .deposit _ _ txHash => s.bridge.isTxSeen txHash = false →
    ∀ who, origin = .signed who → ¬s.bridge.hasAuth who .deposit = true
  | .refund who amount => ∀ author, origin = .signed author →
    s.bridge.hasAuth author .refund = true → amount ∈ s.bridge.pendingWithdraws.get who →
      ¬amount ≤ s.assets.free s.bridge.assetId s.bridge.pendingWithdrawVault
  | .withdrawFinish who amount => ∀ author, origin = .signed author →
    s.bridge.hasAuth author .withdraw = true → amount ∉ s.bridge.pendingWithdraws.get who
  | .withdraw amount => ∀ who, origin = .signed who → ¬amount ≤ s.assets.free s.bridge.assetId who
  | .markBlack _ => ∀ who, origin = .signed who → ¬s.bridge.hasAuth who .mark = true
  | .markWhite account => ∀ who, origin = .signed who → s.bridge.hasAuth who .mark = true →
    s.Stuck account

end State

section Calls

variable {s t u : State AccountId} {origin : Origin AccountId} {call : Call AccountId}
  {account : AccountId} {amount : Balance} {txHash : TxHash}

@[simp] theorem same_self : s.Same s :=
  ⟨rfl, fun _ => rfl, fun _ => rfl, fun _ => rfl, fun _ => rfl, rfl, rfl⟩

theorem State.Same.trans (h : s.Same t) (h' : t.Same u) : s.Same u where
  assets := h'.assets.trans h.assets
  pendingWithdraws who := (h'.pendingWithdraws who).trans (h.pendingWithdraws who)
  pendingDepositList account := (h'.pendingDepositList account).trans (h.pendingDepositList account)
  depositHistory txHash := (h'.depositHistory txHash).trans (h.depositHistory txHash)
  list account := (h'.list account).trans (h.list account)
  paused := h'.paused.trans h.paused
  events := h'.events.trans h.events

theorem inert_iff_wp : s.Inert β origin call ↔
    wp (dispatch origin call : Prog β AccountId Unit) (fun _ _ => False) (fun _ t => s.Same t) False
      s := by
  constructor
  · rintro ⟨e, t, hx, hsame⟩
    exact (wp_of_err hx).mpr hsame
  · intro h
    rcases cases_of_wp h with ⟨_, _, -, hno⟩ | herr | ⟨-, hno⟩
    · exact hno.elim
    · exact herr
    · exact hno.elim

/-- A new deposit is not inert: its transaction is seen, whether it is credited or not. -/
theorem simpleDeposit_not_same (hfresh : s.bridge.isTxSeen txHash = false) :
    ¬wp (simpleDepositWithEvent account amount txHash : Prog β AccountId Unit) (fun _ _ => False)
      (fun _ t => s.Same t) False s := by
  intro h
  rcases simpleDeposit_cases (β := β) s account amount txHash with ⟨-, hx⟩ | ⟨-, e, hx⟩
  · exact (wp_of_ok hx).mp h
  · have hsame := (wp_of_err hx).mp h
    have hget := hsame.depositHistory txHash
    rw [State.seen, StorageMap.get?_insert, if_pos rfl] at hget
    rw [Store.isTxSeen, StorageMap.containsKey, ← hget] at hfresh
    cases hfresh

/-- **Marking an account white** changes nothing exactly if its first deposit is stuck. -/
theorem creditPendings_inert_iff {Q : Unit → State AccountId → Prop} (hQ : ∀ t, ¬Q () t) :
    wp (creditPendings account (s.bridge.pendingDepositList.get account) : Prog β AccountId Unit) Q
      (fun _ t => s.Same t) False (s.taken account) ↔ s.Stuck account := by
  cases hpendings : s.bridge.pendingDepositList.get account with
  | nil =>
    refine iff_of_false (hQ _) ?_
    rintro ⟨p, ps, _, hcons, -⟩
    rw [hpendings] at hcons
    cases hcons
  | cons p ps =>
    have hstored : s.bridge.pendingDepositList.get? account = some (p :: ps) := by
      rw [StorageMap.get] at hpendings
      cases hget : s.bridge.pendingDepositList.get? account with
      | none =>
        rw [hget] at hpendings
        cases hpendings
      | some ds =>
        rw [hget] at hpendings
        exact congrArg some hpendings
    simp only [creditPendings, wp_bind, wp_unwrap, wp_orElse, wp_modify, wp_fail]
    constructor
    · rintro ⟨h, hsome⟩
      obtain ⟨txHash, htx⟩ := Option.ne_none_iff_exists'.mp hsome
      obtain ⟨hcredit, -⟩ := h txHash htx
      have hone := hcredit txHash htx
      rcases simpleDeposit_cases (β := β) (s.taken account) p.accountId p.amount txHash with
        ⟨-, hx⟩ | ⟨hno, e, hx⟩
      · -- what is put back later is shorter
        rw [wp_of_ok hx] at hone
        rcases cases_of_wp (wp_and hone (creditPendings_spec (β := β) account ps)) with
          ⟨_, t, -, hok, -⟩ | ⟨e, t, -, hsame, first, q, qs, tx, u, hsplit, -, -, rfl⟩ | ⟨-, hno, -⟩
        · exact (hQ t hok).elim
        · have hget := hsame.pendingDepositList account
          change (u.bridge.pendingDepositList.insert account (q :: qs)).get? account = _ at hget
          rw [StorageMap.get?_insert, if_pos rfl, hstored] at hget
          have hlen := congrArg List.length (Option.some.inj hget)
          rw [hsplit] at hlen
          simp only [List.length_append, List.length_cons] at hlen
          omega
        · exact hno.elim
      · rw [wp_of_err hx] at hone
        have hget := hone.depositHistory txHash
        change (s.bridge.depositHistory.insert txHash _).get? txHash = _ at hget
        rw [StorageMap.get?_insert, if_pos rfl] at hget
        exact ⟨p, ps, txHash, hpendings, htx, hno, hget.symm⟩
    · rintro ⟨p', ps', txHash, hcons, htx, hno, hseen⟩
      rw [hpendings] at hcons
      cases hcons
      have hsome : ¬p.txHash = none := by simp [htx]
      refine ⟨fun _ _ => ⟨fun tx htx' => ?_, hsome⟩, hsome⟩
      obtain rfl := Option.some.inj (htx.symm.trans htx')
      rcases simpleDeposit_cases (β := β) (s.taken account) p.accountId p.amount txHash with
        ⟨hcan, -⟩ | ⟨-, e, hx⟩
      · exact absurd hcan hno
      · rw [wp_of_err hx]
        refine ⟨rfl, fun _ => rfl, fun account' => ?_, fun tx => ?_, fun _ => rfl, rfl, rfl⟩
        · change ((s.bridge.pendingDepositList.remove account).insert account (p :: ps)).get? _ = _
          rw [StorageMap.get?_insert, StorageMap.get?_remove]
          split
          · rename_i heq
            rw [heq, hstored]
          · rfl
        · change (s.bridge.depositHistory.insert txHash _).get? tx = _
          rw [StorageMap.get?_insert]
          split
          · rename_i heq
            rw [heq, hseen]
          · rfl

/-- **When a call is inert**: exactly if its checks refuse it. -/
theorem inert_iff {call : Call AccountId} (hop : call.operates) :
    s.Inert β origin call ↔ s.Refuses origin call := by
  rw [inert_iff_wp]
  cases call with
  | pause => exact hop.elim
  | resume => exact hop.elim
  | deposit account amount txHash =>
    simp only [dispatch, deposit, wp_bind, wp_gets, wp_ensure, wp_ensureSigned, wp_ite, same_self,
      implies_true, and_true]
    refine forall_congr' fun hfresh => forall_congr' fun who => forall_congr' fun _ => ?_
    refine forall_congr' fun _ => iff_of_false ?_ id
    rintro ⟨hheld, hcredited⟩
    by_cases hhold : s.bridge.threshold ≤ amount ∧
        (s.bridge.checkList account = none ∨ s.bridge.checkList account = some .black)
    · exact hheld hhold
    · exact simpleDeposit_not_same hfresh (hcredited hhold)
  | refund who amount =>
    simp only [dispatch, refund, wp_bind, wp_gets, wp_ensure, wp_ensureSigned, wp_zoom,
      GenericAsset.makeTransferWithEvent, GenericAsset.wp_makeTransfer,
      wp_removeFromPendingWithdraws, depositEvent, wp_modify, same_self, implies_true, and_true]
    refine forall_congr' fun author => forall_congr' fun _ => forall_congr' fun _ => ?_
    refine forall_congr' fun _ => forall_congr' fun _ => iff_of_false ?_ id
    rintro ⟨hpanics, hmoves⟩
    exact hpanics hmoves
  | withdrawFinish who amount =>
    simp only [dispatch, withdrawFinish, wp_bind, wp_gets, wp_ensure, wp_ensureSigned,
      wp_removeFromPendingWithdraws, depositEvent, wp_modify, same_self, implies_true, and_true]
    exact Iff.rfl
  | withdraw amount =>
    simp only [dispatch, withdraw, wp_bind, wp_gets, wp_ensureSigned, wp_zoom,
      GenericAsset.makeTransferWithEvent, GenericAsset.wp_makeTransfer, wp_ite, depositEvent,
      wp_modify, same_self, implies_true, and_true]
    refine forall_congr' fun who => forall_congr' fun _ => forall_congr' fun _ => ?_
    refine iff_of_false ?_ id
    rintro ⟨hpanics, hmoves⟩
    exact hpanics fun hfits => (hmoves hfits).2 (hmoves hfits).1
  | markBlack account =>
    simp only [dispatch, markBlack, takePendings, markWithEvent, mark, depositEvent, wp_bind,
      wp_gets, wp_ensure, wp_ensureSigned, wp_modify, wp_pure, same_self, implies_true, and_true]
    refine forall_congr' fun who => forall_congr' fun _ => forall_congr' fun _ => ?_
    refine iff_of_false (fun h => ?_) id
    -- forgetting the transactions ends or panics
    rcases cases_of_wp (wp_and h (forget_spec _)) with ⟨_, _, -, hno, -⟩ | ⟨_, _, -, -, hno⟩ |
      ⟨-, hno, -⟩ <;> exact hno
  | markWhite account =>
    simp only [dispatch, markWhite, takePendings, markWithEvent, mark, depositEvent, wp_bind,
      wp_gets, wp_ensure, wp_ensureSigned, wp_modify, wp_pure, same_self, implies_true, and_true]
    refine forall_congr' fun who => forall_congr' fun _ => forall_congr' fun _ => ?_
    exact creditPendings_inert_iff fun _ => id

/-- Crediting deposits that have waited leaves the switch. -/
theorem creditPendings_paused (ps : List (Deposit AccountId)) :
    wp (creditPendings account ps : Prog β AccountId Unit)
      (fun _ t => t.bridge.paused = s.bridge.paused) (fun _ t => t.bridge.paused = s.bridge.paused)
      True s := by
  induction ps generalizing s with
  | nil => rfl
  | cons p ps ih =>
    simp only [creditPendings, wp_bind, wp_unwrap, wp_orElse, wp_modify, wp_fail]
    refine ⟨fun _ _ => ⟨fun txHash _ => ?_, fun _ => trivial⟩, fun _ => trivial⟩
    rcases simpleDeposit_cases (β := β) s p.accountId p.amount txHash with
      ⟨-, hx⟩ | ⟨-, e, hx⟩
    · exact (wp_of_ok hx).mpr ih
    · exact (wp_of_err hx).mpr rfl

/-- **Only root can throw the switch back.** -/
theorem dispatch_paused (hpaused : s.bridge.paused = true)
    (hresume : ¬(origin = .root ∧ call = .resume)) :
    wp (dispatch origin call : Prog β AccountId Unit) (fun _ t => t.bridge.paused = true)
      (fun _ t => t.bridge.paused = true) True s := by
  cases call with
  | pause => simp [dispatch, pause, hpaused]
  | resume =>
    simp only [dispatch, resume, wp_bind, wp_ensureRoot, wp_modify]
    exact ⟨fun hroot => absurd ⟨hroot, rfl⟩ hresume, fun _ => hpaused⟩
  | deposit account amount txHash =>
    simp [dispatch, deposit, simpleDepositWithEvent, holdDepositWithEvent, depositEvent, hpaused,
      wp_trivial]
  | refund who amount =>
    simp [dispatch, refund, GenericAsset.makeTransferWithEvent, wp_removeFromPendingWithdraws,
      depositEvent, hpaused]
  | withdrawFinish who amount =>
    simp [dispatch, withdrawFinish, wp_removeFromPendingWithdraws, depositEvent, hpaused]
  | withdraw amount =>
    simp [dispatch, withdraw, GenericAsset.makeTransferWithEvent, depositEvent, hpaused]
  | markBlack account =>
    simp only [dispatch, markBlack, takePendings, markWithEvent, mark, depositEvent, wp_bind,
      wp_gets, wp_ensure, wp_ensureSigned, wp_modify, wp_pure, hpaused, implies_true, and_true]
    intro who _ _
    refine wp_mono (forget_spec _) ?_ (fun _ _ hno => hno.elim) id
    rintro _ _ ⟨txHashes, -, rfl⟩
    obtain ⟨m, hm⟩ := foldl_unseen txHashes (s.taken account)
    exact (congrArg (fun t => t.bridge.paused) hm).trans hpaused
  | markWhite account =>
    simp only [dispatch, markWhite, takePendings, markWithEvent, mark, depositEvent, wp_bind,
      wp_gets, wp_ensure, wp_ensureSigned, wp_modify, wp_pure, hpaused, implies_true, and_true]
    intro who _ _
    exact wp_mono (creditPendings_paused (s := s.taken account) _)
      (fun _ t ht => ht.trans hpaused) (fun _ t ht => ht.trans hpaused) id

end Calls

/-! ### Runs -/

namespace Step

/-- The calls of the bridge. -/
def isBridge : Step AccountId → Prop
  | .bridge _ _ => True
  | .ledger _ _ => False

/-- The switch is thrown back. -/
def resumes : Step AccountId → Prop
  | .bridge origin call => origin = .root ∧ call = .resume
  | .ledger _ _ => False

variable (β) in
/-- **A step is inert**, if it is a call that the switch should stop. -/
def Inert (s : State AccountId) : Step AccountId → Prop
  | .bridge origin call => call.operates → s.Inert β origin call
  | .ledger _ _ => True

/-- **The checks of a step refuse it**, if it is a call that the switch should stop. -/
def Refused (s : State AccountId) : Step AccountId → Prop
  | .bridge origin call => call.operates → s.Refuses origin call
  | .ledger _ _ => True

end Step

section Runs

variable [Inhabited AccountId] {s s' : State AccountId} {i : Step AccountId}
  {is : List (Step AccountId)}

omit [Inhabited AccountId] in
/-- A step is inert exactly if its checks refuse it. -/
theorem step_inert_iff (i : Step AccountId) : i.Inert β s ↔ i.Refused s := by
  cases i with
  | bridge origin call => exact forall_congr' fun hop => inert_iff hop
  | ledger origin call => exact Iff.rfl

/-- **The pallet stays paused** until root throws the switch back. -/
theorem next_paused (hresume : ¬i.resumes) (hpaused : s.bridge.paused = true)
    (hnext : next β i s = some s') : s'.bridge.paused = true := by
  refine next_of_wp (R := fun t => t.bridge.paused = true) hnext ?_ hpaused
  cases i with
  | bridge origin call => exact dispatch_paused hpaused hresume
  | ledger origin call =>
    simp only [Step.exec, wp_bind, wp_gets, wp_zoom, hpaused]
    exact wp_trivial

/-- **A refused call changes nothing**, and neither does the switch of a paused pallet. -/
theorem next_same (hresume : ¬i.resumes) (hbridge : i.isBridge) (hpaused : s.bridge.paused = true)
    (hrefused : i.Refused s) (hnext : next β i s = some s') : s.Same s' := by
  cases i with
  | ledger origin call => exact hbridge.elim
  | bridge origin call =>
    by_cases hop : call.operates
    · obtain ⟨e, t, hx, hsame⟩ := (inert_iff (β := β) hop).mpr (hrefused hop)
      simp only [next, Step.exec, hx] at hnext
      cases hnext
      exact hsame
    · refine next_of_wp (R := fun t => s.Same t) hnext ?_ same_self
      cases call with
      | pause =>
        simp only [Step.exec, dispatch, pause, wp_bind, wp_ensureRoot, wp_modify, same_self]
        have hthrown : s.Same (s.withBridge fun t => { t with paused := true }) :=
          ⟨rfl, fun _ => rfl, fun _ => rfl, fun _ => rfl, fun _ => rfl, hpaused.symm, rfl⟩
        exact ⟨fun _ => hthrown, fun _ => trivial⟩
      | resume =>
        simp only [Step.exec, dispatch, resume, wp_bind, wp_ensureRoot, wp_modify, same_self]
        exact ⟨fun hroot => absurd ⟨hroot, rfl⟩ hresume, fun _ => trivial⟩
      | deposit => exact absurd trivial hop
      | refund => exact absurd trivial hop
      | withdrawFinish => exact absurd trivial hop
      | withdraw => exact absurd trivial hop
      | markBlack => exact absurd trivial hop
      | markWhite => exact absurd trivial hop

/-- **A paused pallet is inert in a run** if and only if every call of the run is refused by its own
checks. The pallet stays paused all along, and a run of such calls leaves balances, lists and
history as they are. -/
theorem paused_inert_iff (hpaused : s.bridge.paused = true) (hresume : ∀ i ∈ is, ¬i.resumes) :
    ((∀ e ∈ trace (next β) is s, e.2.1.Inert β e.1) ↔
      ∀ e ∈ trace (next β) is s, e.2.1.Refused e.1) ∧
    (∀ e ∈ trace (next β) is s, e.2.2.bridge.paused = true) ∧
    ((∀ i ∈ is, i.isBridge) → (∀ e ∈ trace (next β) is s, e.2.1.Refused e.1) →
      ∀ e ∈ trace (next β) is s, s.Same e.2.2) := by
  refine ⟨?_, ?_, fun hbridge hrefused => ?_⟩
  · exact forall_congr' fun e => forall_congr' fun _ => step_inert_iff e.2.1
  · refine trace_invariant (I := fun t : State AccountId => t.bridge.paused = true)
      (c := fun _ _ => True) (fun i hi t t' ht _ hnext => ?_) hpaused fun _ _ => trivial
    exact next_paused (hresume i hi) ht hnext
  · have hrun : ∀ e ∈ trace (next β) is s, s.Same e.2.2 ∧ e.2.2.bridge.paused = true := by
      refine trace_invariant (I := fun t => s.Same t ∧ t.bridge.paused = true)
        (c := fun t i => i.Refused t)
        (fun i hi t t' ht hc hnext => ?_) ⟨same_self, hpaused⟩ hrefused
      exact ⟨ht.1.trans (next_same (hresume i hi) (hbridge i hi) ht.2 hc hnext),
        next_paused (hresume i hi) ht.2 hnext⟩
    exact fun e he => (hrun e he).1

/-- A paused pallet refuses a withdrawal that is not covered. -/
theorem paused_inert_example :
    ∃ s, run (next .release) [.bridge .root .pause] exampleState = some s ∧
      ∀ e ∈ trace (next .release) [.bridge (.signed 5) (.withdraw 10)] s, s.Same e.2.2 := by
  obtain ⟨s, hrun, hpaused, huncovered, hnext⟩ := exists_of_any
    (p := fun s : State ℕ => s.bridge.paused = true ∧ ¬10 ≤ s.assets.free s.bridge.assetId 5 ∧
      (next .release (.bridge (.signed 5) (.withdraw 10)) s).isSome = true)
    (o := run (next .release) [.bridge .root .pause] exampleState) (by decide +kernel)
  obtain ⟨t, ht⟩ := Option.isSome_iff_exists.mp hnext
  have hresume : ∀ i ∈ [(.bridge (.signed 5) (.withdraw 10) : Step ℕ)], ¬i.resumes := by
    rw [List.forall_mem_singleton]
    exact fun h => nomatch h.1
  refine ⟨s, hrun, (paused_inert_iff hpaused hresume).2.2 ?_ ?_⟩
  · exact List.forall_mem_singleton.mpr trivial
  · rw [trace_cons_of_some ht, trace_nil, List.forall_mem_singleton]
    rintro - _ ⟨⟩
    exact huncovered

/-- The pallet is paused, and a deposit is credited nevertheless. -/
theorem paused_not_inert :
    ∃ s, run (next .release) [.bridge .root .pause] exampleState = some s ∧
      s.bridge.paused = true ∧ ¬s.Inert .release (.signed 2) (.deposit 5 10 1) ∧
      ∃ t, run (next .release) [.bridge (.signed 2) (.deposit 5 10 1)] s = some t ∧
        s.assets.free 1 5 = 0 ∧ t.assets.free 1 5 = 10 := by
  obtain ⟨s, hrun, hpaused, hfree, hok, hnext⟩ := exists_of_any
    (p := fun s : State ℕ => s.bridge.paused = true ∧ s.assets.free 1 5 = 0 ∧
      ((dispatch (.signed 2) (.deposit 5 10 1) : Prog .release ℕ Unit) s).okState.isSome = true ∧
      ((run (next .release) [.bridge (.signed 2) (.deposit 5 10 1)] s).any
        fun t => t.assets.free 1 5 = 10) = true)
    (o := run (next .release) [.bridge .root .pause] exampleState) (by decide +kernel)
  obtain ⟨t, ht, hcredited⟩ := exists_of_any hnext
  refine ⟨s, hrun, hpaused, ?_, t, ht, hfree, hcredited⟩
  rintro ⟨e, u, herr, -⟩
  obtain ⟨v, hv⟩ := Option.isSome_iff_exists.mp hok
  exact nomatch (Outcome.eq_ok_of_okState hv).symm.trans herr

end Runs

end Bridge

end MoneyPool
