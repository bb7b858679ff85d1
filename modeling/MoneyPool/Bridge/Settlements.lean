import MoneyPool.Bridge.EventLog

/-!
# Every withdrawal is settled once

An account may ask for the same amount many times, and whoever settles a withdrawal names an amount
only. Still nothing is settled twice: as often as an amount was asked for, it is open, was refunded
or was finished (`MoneyPool.Bridge.withdrawals_settle_once`).

What was finished has left as bitcoin, and the asset that stood for it stays in the vault, beside
what is still open (`MoneyPool.Bridge.finished_stays`). The pallet mints what it credits and burns
nothing, so that the asset is issued for all that was ever deposited.
-/

namespace MoneyPool

namespace Bridge

open Pallet Pallet.Exec

variable {AccountId : Type} [DecidableEq AccountId] {β : Build}

/-! ### Withdrawals in the events -/

/-- What may be said of a withdrawal. -/
inductive Phase where
  | requested
  | refunded
  | finished
  deriving DecidableEq

/-- The withdrawal an event is about: what it says of it, whose it is, and its amount. -/
def Event.withdrawal : Event AccountId → Option (Phase × AccountId × Balance)
  | .pendingWithdraw account amount => some (.requested, account, amount)
  | .refund account amount => some (.refunded, account, amount)
  | .withdraw account amount => some (.finished, account, amount)
  | _ => none

/-- The amounts some events say something of, for an account. -/
def amountsOf (phase : Phase) (who : AccountId) (events : List (Event AccountId)) : List Balance :=
  ((events.filterMap Event.withdrawal).filter fun w => w.1 = phase ∧ w.2.1 = who).map fun w => w.2.2

/-- The sum of all amounts some events say something of. -/
def sumOf (phase : Phase) (events : List (Event AccountId)) : ℕ :=
  exactSum (((events.filterMap Event.withdrawal).filter fun w => w.1 = phase).map fun w => w.2.2)

theorem amountsOf_append (phase : Phase) (who : AccountId)
    (events events' : List (Event AccountId)) :
    amountsOf phase who (events ++ events') =
      amountsOf phase who events ++ amountsOf phase who events' := by
  simp only [amountsOf, List.filterMap_append, List.filter_append, List.map_append]

omit [DecidableEq AccountId] in
theorem sumOf_append (phase : Phase) (events events' : List (Event AccountId)) :
    sumOf phase (events ++ events') = sumOf phase events + sumOf phase events' := by
  simp only [sumOf, List.filterMap_append, List.filter_append, List.map_append, exactSum_append]

/-- Some events are about no withdrawal. -/
def NoWithdrawal (events : List (Event AccountId)) : Prop := ∀ e ∈ events, e.withdrawal = none

section Steps

variable {s s' t : State AccountId} {i : Step AccountId} {who account vault : AccountId}
  {amount : Balance} {new : List (Event AccountId)}

theorem NoWithdrawal.amountsOf (h : NoWithdrawal new) (phase : Phase) (who : AccountId) :
    amountsOf phase who new = [] := by
  rw [Bridge.amountsOf, List.filterMap_eq_nil_iff.mpr h]
  rfl

omit [DecidableEq AccountId] in
theorem NoWithdrawal.sumOf [DecidableEq AccountId] (h : NoWithdrawal new) (phase : Phase) :
    sumOf phase new = 0 := by
  rw [Bridge.sumOf, List.filterMap_eq_nil_iff.mpr h]
  rfl

omit [DecidableEq AccountId] in
theorem noWithdrawal_creditsOf (deposits : List (Deposit AccountId)) :
    NoWithdrawal (creditsOf deposits) := by
  intro e he
  obtain ⟨d, -, hd⟩ := List.mem_filterMap.mp he
  obtain ⟨txHash, -, rfl⟩ := Option.map_eq_some_iff.mp hd
  rfl

omit [DecidableEq AccountId] in
theorem noWithdrawal_singleton {e : Event AccountId} (h : e.withdrawal = none) :
    NoWithdrawal [e] := by
  intro e' he
  rw [List.mem_singleton.mp he]
  exact h

/-! ### What a step does to withdrawals -/

/-- **What a step does to withdrawals**: it asks for one, refunds one or finishes one that is open,
or has nothing to do with them. -/
inductive State.Withdraws (s : State AccountId) : State AccountId → Prop
  | requested (who : AccountId) (amount : Balance) : s.Withdraws (s.withdrawn who amount)
  | refunded (who : AccountId) (amount : Balance)
      (asked : amount ∈ s.bridge.pendingWithdraws.get who) : s.Withdraws (s.refunded who amount)
  | finished (who : AccountId) (amount : Balance)
      (asked : amount ∈ s.bridge.pendingWithdraws.get who) : s.Withdraws (s.finished who amount)
  | other {t : State AccountId} (new : List (Event AccountId)) (events : t.events = s.events ++ new)
      (none : NoWithdrawal new) (same : t.bridge.pendingWithdraws = s.bridge.pendingWithdraws) :
      s.Withdraws t

theorem Effect.withdraws [Inhabited AccountId] (heff : Effect β s i s') : s.Withdraws s' := by
  have hquiet : ∀ {t : State AccountId}, t.events = s.events →
      t.bridge.pendingWithdraws = s.bridge.pendingWithdraws → s.Withdraws t :=
    fun hevents hsame => .other [] (hevents.trans (List.append_nil _).symm)
      (fun _ hmem => absurd hmem List.not_mem_nil) hsame
  cases heff with
  | unchanged => exact hquiet rfl rfl
  | switched => exact hquiet rfl rfl
  | ledgerCall => exact hquiet rfl rfl
  | credited => exact .other _ rfl (noWithdrawal_singleton rfl) rfl
  | lost => exact hquiet rfl rfl
  | held => exact .other _ rfl (noWithdrawal_singleton rfl) rfl
  | blackened author account txHashes =>
    obtain ⟨m, hm⟩ := foldl_unseen txHashes (s.taken account)
    rw [hm]
    exact .other _ rfl (noWithdrawal_singleton rfl) rfl
  | @whitened author account t hclears =>
    obtain ⟨m, hm⟩ := hclears.bridge_eq
    refine .other (creditsOf (s.pendings account) ++ [Event.accountMarked account .white]) ?_ ?_ ?_
    · rw [← List.append_assoc]
      exact congrArg (· ++ [Event.accountMarked account .white]) hclears.events
    · exact List.forall_mem_append.mpr ⟨noWithdrawal_creditsOf _, noWithdrawal_singleton rfl⟩
    · show t.bridge.pendingWithdraws = _
      rw [hm]
      rfl
  | @stuck author account before ps p txHash t hsplit hclears =>
    obtain ⟨m, hm⟩ := hclears.bridge_eq
    refine .other (creditsOf before) hclears.events (noWithdrawal_creditsOf _) ?_
    show t.bridge.pendingWithdraws = _
    rw [hm]
    rfl
  | withdrawn who amount => exact .requested who amount
  | refunded author who amount hasked => exact .refunded who amount hasked
  | finished author who amount hasked => exact .finished who amount hasked

/-! ### Once -/

/-- **As often as an amount was asked for, it is open, was refunded or was finished.** -/
def State.SettledOnce (s : State AccountId) (who : AccountId) : Prop :=
  ∀ amount, (amountsOf .requested who s.events).count amount =
    (s.bridge.pendingWithdraws.get who).count amount +
      ((amountsOf .refunded who s.events).count amount +
        (amountsOf .finished who s.events).count amount)

/-- What a single event says. -/
theorem amountsOf_singleton {e : Event AccountId} {p : Phase}
    (h : e.withdrawal = some (p, account, amount)) (phase : Phase) (who : AccountId) :
    amountsOf phase who [e] = if p = phase ∧ account = who then [amount] else [] := by
  rw [amountsOf, List.filterMap_cons_some h, List.filterMap_nil]
  by_cases heq : p = phase ∧ account = who
  · simp only [List.filter_cons, heq, and_self, decide_true, if_true]
    rfl
  · simp only [List.filter_cons, heq, decide_false, if_false]
    rfl

/-- An open amount that is settled is open once less. -/
theorem count_settled (hasked : amount ∈ s.bridge.pendingWithdraws.get account) (who : AccountId)
    (n : Balance) : ((s.settled account amount).get who).count n +
      (if account = who then [amount] else []).count n =
        (s.bridge.pendingWithdraws.get who).count n := by
  rw [get_settled hasked]
  rcases eq_or_ne account who with rfl | hne
  · rw [if_pos rfl, if_pos rfl, (List.perm_cons_erase hasked).count_eq n, ← List.count_append]
    exact (List.perm_append_singleton ..).count_eq n
  · rw [if_neg (Ne.symm hne), if_neg hne]
    rfl

/-- **One step** settles an open withdrawal once, if any. -/
theorem State.Withdraws.settledOnce (hw : s.Withdraws s') (h : s.SettledOnce who) :
    s'.SettledOnce who := by
  intro n
  have hn := h n
  cases hw with
  | requested account amount =>
    have hget : (s.asked account amount).get who = if who = account then
        s.bridge.pendingWithdraws.get account ++ [amount]
        else s.bridge.pendingWithdraws.get who := StorageMap.get_insert ..
    show (amountsOf .requested who (s.events ++ [Event.pendingWithdraw account amount])).count n =
      ((s.asked account amount).get who).count n +
        ((amountsOf .refunded who (s.events ++ [Event.pendingWithdraw account amount])).count n +
          (amountsOf .finished who (s.events ++ [Event.pendingWithdraw account amount])).count n)
    simp only [amountsOf_append, amountsOf_singleton (e := .pendingWithdraw account amount) rfl,
      List.count_append, hget]
    rcases eq_or_ne account who with rfl | hne
    · simp
      omega
    · simp [hne, Ne.symm hne]
      omega
  | refunded account amount hasked =>
    have hcount := count_settled hasked who n
    show (amountsOf .requested who (s.events ++ [Event.refund account amount])).count n =
      ((s.settled account amount).get who).count n +
        ((amountsOf .refunded who (s.events ++ [Event.refund account amount])).count n +
          (amountsOf .finished who (s.events ++ [Event.refund account amount])).count n)
    simp only [amountsOf_append, amountsOf_singleton (e := .refund account amount) rfl,
      List.count_append, reduceCtorEq, false_and, true_and, if_false, List.count_nil]
    omega
  | finished account amount hasked =>
    have hcount := count_settled hasked who n
    show (amountsOf .requested who (s.events ++ [Event.withdraw account amount])).count n =
      ((s.settled account amount).get who).count n +
        ((amountsOf .refunded who (s.events ++ [Event.withdraw account amount])).count n +
          (amountsOf .finished who (s.events ++ [Event.withdraw account amount])).count n)
    simp only [amountsOf_append, amountsOf_singleton (e := .withdraw account amount) rfl,
      List.count_append, reduceCtorEq, false_and, true_and, if_false, List.count_nil]
    omega
  | other new hevents hnone hsame =>
    rw [hevents, hsame]
    simp only [amountsOf_append, hnone.amountsOf, List.append_nil]
    exact hn

/-! ### The vault -/

/-- **The vault holds** what it had, what is open and what was finished. -/
structure State.Holds (s : State AccountId) (vault : AccountId) (start : ℕ) : Prop where
  backed : s.Backed vault
  holds : start + (askedSum s.bridge.pendingWithdraws + sumOf .finished s.events) ≤
    (s.assets.free s.bridge.assetId vault).toNat

/-- A step that has nothing to do with withdrawals. -/
theorem State.Holds.of_le {start : ℕ} (h : s.Holds vault start) (hbacked : t.Backed vault)
    (hevents : t.events = s.events ++ new) (hnone : NoWithdrawal new)
    (hsame : t.bridge.pendingWithdraws = s.bridge.pendingWithdraws)
    (hle : (s.assets.free s.bridge.assetId vault).toNat ≤
      (t.assets.free t.bridge.assetId vault).toNat) : t.Holds vault start := by
  refine ⟨hbacked, ?_⟩
  rw [hsame, hevents, sumOf_append, hnone.sumOf]
  exact h.holds.trans hle

/-- Crediting deposits takes nothing from anybody. -/
theorem State.Clears.free_le {ps : List (Deposit AccountId)} (h : s.Clears ps t)
    (who : AccountId) : (s.assets.free s.bridge.assetId who).toNat ≤
      (t.assets.free s.bridge.assetId who).toNat := by
  induction h with
  | nil => exact le_rfl
  | cons _ hcan _ ih => exact (GenericAsset.free_le_minted hcan who).trans ih

variable [Inhabited AccountId]

/-- **The vault goes on holding it**, if others act. -/
theorem Effect.holds {start : ℕ} (heff : Effect β s i s') (h : s.Holds vault start)
    (hi : i.byOthers vault) : s'.Holds vault start := by
  have hbacked := heff.backed h.backed hi
  have hquiet : ∀ {t : State AccountId}, t.Backed vault → t.events = s.events →
      t.bridge.pendingWithdraws = s.bridge.pendingWithdraws →
      (s.assets.free s.bridge.assetId vault).toNat ≤
        (t.assets.free t.bridge.assetId vault).toNat → t.Holds vault start :=
    fun hb hevents => h.of_le hb (hevents.trans (List.append_nil _).symm)
      fun _ hmem => absurd hmem List.not_mem_nil
  cases heff with
  | unchanged => exact h
  | switched => exact hquiet hbacked rfl rfl le_rfl
  | ledgerCall origin call assets hcall =>
    refine hquiet hbacked rfl rfl ?_
    cases call with
    | transfer assetId toAccount amount =>
      rcases transfer_cases hcall with rfl | ⟨who, rfl, hle, rfl⟩
      · exact le_rfl
      · exact h.backed.covered.bounded.free_le_moved hle
          fun _ heq => hi (congrArg Origin.signed heq.symm)
    | create => exact hi.elim
    | updatePermission => exact hi.elim
    | mint => exact hi.elim
    | burn => exact hi.elim
    | createReserved => exact hi.elim
  | credited author account amount txHash _ _ hcan =>
    exact h.of_le hbacked rfl (noWithdrawal_singleton rfl) rfl
      (GenericAsset.free_le_minted hcan vault)
  | lost => exact hquiet hbacked rfl rfl le_rfl
  | held => exact h.of_le hbacked rfl (noWithdrawal_singleton rfl) rfl le_rfl
  | blackened author account txHashes =>
    obtain ⟨m, hm⟩ := foldl_unseen txHashes (s.taken account)
    rw [hm] at hbacked ⊢
    exact h.of_le hbacked rfl (noWithdrawal_singleton rfl) rfl le_rfl
  | @whitened author account t hclears =>
    obtain ⟨m, hm⟩ := hclears.bridge_eq
    have hevents : (t.marked account .white).events =
        s.events ++ (creditsOf (s.pendings account) ++ [Event.accountMarked account .white]) := by
      rw [← List.append_assoc]
      exact congrArg (· ++ [Event.accountMarked account .white]) hclears.events
    refine h.of_le hbacked hevents (List.forall_mem_append.mpr
      ⟨noWithdrawal_creditsOf _, noWithdrawal_singleton rfl⟩) ?_ ?_
    · show t.bridge.pendingWithdraws = _
      rw [hm]
      rfl
    · show _ ≤ (t.assets.free t.bridge.assetId vault).toNat
      rw [hm]
      exact hclears.free_le vault
  | @stuck author account before ps p txHash t hsplit hclears =>
    obtain ⟨m, hm⟩ := hclears.bridge_eq
    refine h.of_le hbacked hclears.events (noWithdrawal_creditsOf _) ?_ ?_
    · show t.bridge.pendingWithdraws = _
      rw [hm]
      rfl
    · show _ ≤ (t.assets.free t.bridge.assetId vault).toNat
      rw [hm]
      exact hclears.free_le vault
  | withdrawn who amount hle =>
    have hne : who ≠ vault := fun heq => hi (congrArg Origin.signed heq)
    have hfree := h.backed.covered.bounded.free_moved_to hle hne
    refine ⟨hbacked, ?_⟩
    show start + (askedSum (s.asked who amount) +
        sumOf .finished (s.events ++ [Event.pendingWithdraw who amount])) ≤
      ((s.assets.moved s.bridge.assetId who s.bridge.pendingWithdrawVault amount).free
        s.bridge.assetId vault).toNat
    have hsum : sumOf .finished [Event.pendingWithdraw who amount] = 0 := rfl
    have hholds := h.holds
    rw [sumOf_append, hsum, askedSum_asked, h.backed.account, hfree]
    omega
  | refunded author who amount hasked =>
    have hle := h.backed.le_free hasked
    have hne := h.backed.ne_vault hasked
    refine ⟨hbacked, ?_⟩
    show start + (askedSum (s.settled who amount) +
        sumOf .finished (s.events ++ [Event.refund who amount])) ≤
      ((s.assets.moved s.bridge.assetId s.bridge.pendingWithdrawVault who amount).free
        s.bridge.assetId vault).toNat
    have hsum : sumOf .finished [Event.refund who amount] = 0 := rfl
    have hsettled := askedSum_settled hasked
    have hholds := h.holds
    rw [sumOf_append, hsum, h.backed.account, GenericAsset.Store.free_moved_from (Ne.symm hne),
      BitVec.toNat_sub_of_le hle]
    omega
  | finished author who amount hasked =>
    refine ⟨hbacked, ?_⟩
    show start + (askedSum (s.settled who amount) +
        sumOf .finished (s.events ++ [Event.withdraw who amount])) ≤
      (s.assets.free s.bridge.assetId vault).toNat
    have hsum : sumOf .finished [Event.withdraw who amount] = amount.toNat := Nat.add_zero _
    have hsettled := askedSum_settled hasked
    have hholds := h.holds
    rw [sumOf_append, hsum]
    omega

/-- **What is issued** is what a call of the bridge credits, if nobody but the bridge issues. -/
theorem issued_of_next (honce : ∀ account, s.CreditedOnce account [])
    (hnext : next β i s = some s') (hi : i.byOthers vault) {start : ℕ}
    (h : s.issued.toNat = start + creditSum s.events) :
    s'.issued.toNat = start + creditSum s'.events := by
  have heff := next_effect hnext
  cases i with
  | bridge origin call =>
    obtain ⟨new, hlogs, -⟩ := heff.logs honce
    rw [hlogs.issued, hlogs.events, creditSum_append, h, Nat.add_assoc]
  | ledger origin call =>
    rw [heff.ledger_events, ← h]
    cases heff with
    | unchanged => rfl
    | ledgerCall _ _ assets hcall =>
      cases call with
      | transfer assetId toAccount amount =>
        rcases transfer_cases hcall with rfl | ⟨who, -, -, rfl⟩
        · rfl
        · show ((s.assets.moved ..).totalIssuance.get s.bridge.assetId).toNat = _
          rw [GenericAsset.Store.moved_totalIssuance]
          rfl
      | create => exact hi.elim
      | updatePermission => exact hi.elim
      | mint => exact hi.elim
      | burn => exact hi.elim
      | createReserved => exact hi.elim

end Steps

/-! ### Runs -/

section Runs

variable [Inhabited AccountId] {s s₀ : State AccountId} {config : GenesisConfig AccountId}

/-- **Every withdrawal is settled once.** In every state that is reached from genesis, what an
account has ever asked for is, up to the order, what is open of it, what was refunded and what was
finished: no amount is settled that was not asked for, none twice, and none is lost. -/
theorem withdrawals_settle_once (hgenesis : config.build β = some s₀)
    (hreach : Reachable (next β) s₀ s) (who : AccountId) :
    (amountsOf .requested who s.events).Perm (s.bridge.pendingWithdraws.get who ++
      (amountsOf .refunded who s.events ++ amountsOf .finished who s.events)) := by
  obtain ⟨hevents, hbridge⟩ := GenesisConfig.build_events hgenesis
  have hstart : s₀.SettledOnce who := by
    intro n
    rw [hevents, hbridge]
    rfl
  have hsettled := hreach.invariant hstart fun _ _ _ h _ hnext =>
    (next_effect hnext).withdraws.settledOnce h
  refine List.perm_iff_count.mpr fun n => ?_
  rw [List.count_append, List.count_append]
  exact hsettled n

/-- **What was finished stays in the vault.** In every run of calls of the bridge and of transfers,
none of them signed by the vault, from a genesis that has issued what is held of the asset, the
vault holds on top of what it had at genesis everything that is open and everything that was ever
finished, and what is issued of the asset is what was issued at genesis and all that was ever
credited: a withdrawal takes nothing out of the issuance. -/
theorem finished_stays (hgenesis : config.build β = some s₀)
    (hcovered : s₀.assets.Covered config.assetId)
    (hreach : Reach (next β) (fun _ i => i.byOthers config.pendingWithdrawVault) s₀ s) :
    (s₀.assets.free config.assetId config.pendingWithdrawVault).toNat +
        (askedSum s.bridge.pendingWithdraws + sumOf .finished s.events) ≤
      (s.assets.free s.bridge.assetId config.pendingWithdrawVault).toNat ∧
    s.issued.toNat = s₀.issued.toNat + creditSum s.events := by
  obtain ⟨hevents, hbridge⟩ := GenesisConfig.build_events hgenesis
  have hstart : s₀.Holds config.pendingWithdrawVault
      (s₀.assets.free config.assetId config.pendingWithdrawVault).toNat := by
    refine ⟨backed_of_reach hgenesis hcovered .refl, ?_⟩
    rw [hevents, hbridge]
    exact le_rfl
  have hissued : s₀.issued.toNat = s₀.issued.toNat + creditSum s₀.events := by
    rw [hevents]
    rfl
  have hall := hreach.invariant (I := fun s => (∀ account, s.CreditedOnce account []) ∧
    s.Holds config.pendingWithdrawVault
      (s₀.assets.free config.assetId config.pendingWithdrawVault).toNat ∧
    s.issued.toNat = s₀.issued.toNat + creditSum s.events)
    ⟨creditedOnce_of_reachable hgenesis .refl, hstart, hissued⟩ ?_
  · exact ⟨hall.2.1.holds, hall.2.2⟩
  · rintro t i t' ⟨honce, hholds, hiss⟩ hi hnext
    have heff := next_effect hnext
    exact ⟨heff.creditedOnce honce, heff.holds hholds hi, issued_of_next honce hnext hi hiss⟩

end Runs

/-- A deposit of an account, and three withdrawals of it: one of each kind. -/
def exampleWithdrawals : List (Step ℕ) :=
  [.bridge (.signed 2) (.deposit 5 10 1), .bridge (.signed 5) (.withdraw 4),
    .bridge (.signed 5) (.withdraw 4), .bridge (.signed 5) (.withdraw 2),
    .bridge (.signed 2) (.refund 5 4), .bridge (.signed 2) (.withdrawFinish 5 4)]

theorem withdrawals_settle_once_example :
    ∃ s, run (next .release) exampleWithdrawals exampleState = some s ∧
      amountsOf .refunded 5 s.events = [4] ∧ amountsOf .finished 5 s.events = [4] ∧
      (amountsOf .requested 5 s.events).Perm (s.bridge.pendingWithdraws.get 5 ++
        (amountsOf .refunded 5 s.events ++ amountsOf .finished 5 s.events)) := by
  obtain ⟨s, hrun, hrefunded, hfinished⟩ := exists_of_any
    (p := fun s : State ℕ => amountsOf .refunded 5 s.events = [4] ∧
      amountsOf .finished 5 s.events = [4])
    (o := run (next .release) exampleWithdrawals exampleState) (by decide +kernel)
  exact ⟨s, hrun, hrefunded, hfinished,
    withdrawals_settle_once exampleConfig_build (reachable_of_run hrun) 5⟩

theorem finished_stays_example :
    ∃ s, run (next .release) exampleWithdrawals exampleState = some s ∧
      sumOf .finished s.events = 4 ∧ s.assets.free 1 7 = 6 ∧
      s.issued.toNat = exampleState.issued.toNat + creditSum s.events := by
  obtain ⟨s, hrun, hfinished, hvault⟩ := exists_of_any
    (p := fun s : State ℕ => sumOf .finished s.events = 4 ∧ s.assets.free 1 7 = 6)
    (o := run (next .release) exampleWithdrawals exampleState) (by decide +kernel)
  have hreach : Reach (next .release) (fun _ i => i.byOthers exampleConfig.pendingWithdrawVault)
      exampleState s :=
    reach_of_run hrun (by simp [exampleWithdrawals, Step.byOthers, exampleConfig])
  have hcovered : exampleState.assets.held exampleConfig.assetId ≤
      (exampleState.assets.totalIssuance.get exampleConfig.assetId).toNat := by decide +kernel
  exact ⟨s, hrun, hfinished, hvault, (finished_stays exampleConfig_build hcovered hreach).2⟩

end Bridge

end MoneyPool
