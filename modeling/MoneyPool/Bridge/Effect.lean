import MoneyPool.Bridge.Model

/-!
# What a step of the bridge does

The states the operations of the bridge lead to, and with `MoneyPool.Bridge.Effect` the list
of everything a step can do, each time with what it has checked before. The invariants of the
bridge are proved by cases on it.

Marking an account white credits deposits until one is refused
(`MoneyPool.Bridge.State.Clears`), and marking one black forgets transactions. In both cases
the deposits are out of the storage meanwhile.
-/

namespace MoneyPool

namespace Bridge

open Pallet Pallet.Exec

variable {AccountId : Type} [DecidableEq AccountId] {β : Build}

/-! ### States -/

namespace State

variable (s : State AccountId) (account who : AccountId) (amount : Balance) (txHash : TxHash)

/-- A transaction counts as seen. -/
def seen : State AccountId :=
  s.withBridge fun t => { t with
    depositHistory := t.depositHistory.insert txHash
      { txHash := none, amount := amount, accountId := account } }

/-- A transaction counts as not seen. -/
def unseen : State AccountId :=
  s.withBridge fun t => { t with depositHistory := t.depositHistory.remove txHash }

/-- A deposit can be credited. -/
def CanCredit : Prop := s.assets.CanMint s.bridge.assetId s.sudoKey account amount

/-- **A deposit is credited.** -/
def credited : State AccountId :=
  { s.seen account amount txHash with
    assets := s.assets.minted s.bridge.assetId account amount
    events := s.events ++ [.deposit account amount txHash] }

/-- A deposit that waits for the mark of its account. -/
def waiting : Deposit AccountId := { txHash := some txHash, amount := amount, accountId := account }

/-- **A deposit is held.** -/
def held : State AccountId :=
  { (s.seen account amount txHash).withBridge fun t => { t with
      pendingDepositList := t.pendingDepositList.mutate account fun v =>
        v ++ [waiting account amount txHash] } with
    events := s.events ++ [.pending account amount txHash] }

/-- The deposits that wait are taken out of the storage. -/
def taken : State AccountId :=
  s.withBridge fun t => { t with pendingDepositList := t.pendingDepositList.remove account }

/-- Deposits are put back into the storage. -/
def restored (pendings : List (Deposit AccountId)) : State AccountId :=
  s.withBridge fun t =>
    { t with pendingDepositList := t.pendingDepositList.insert account pendings }

/-- An account is marked. -/
def marked (bow : BlackOrWhite) : State AccountId :=
  { s.withBridge fun t => { t with list := t.list.insert account bow } with
    events := s.events ++ [.accountMarked account bow] }

/-- What the accounts have asked for, with one amount more. -/
def asked : StorageMap AccountId (List Balance) :=
  s.bridge.pendingWithdraws.insert who (s.bridge.pendingWithdraws.get who ++ [amount])

/-- What the accounts have asked for, with one amount less. -/
def settled : StorageMap AccountId (List Balance) :=
  if 1 < (s.bridge.pendingWithdraws.get who).length then
    (s.bridge.pendingWithdraws.remove who).insert who
      (dropFirstAmount amount false (s.bridge.pendingWithdraws.get who))
  else s.bridge.pendingWithdraws.remove who

/-- **An amount goes to the vault.** -/
def withdrawn : State AccountId :=
  { s with
    assets := s.assets.moved s.bridge.assetId who s.bridge.pendingWithdrawVault amount
    bridge := { s.bridge with pendingWithdraws := s.asked who amount }
    events := s.events ++ [.pendingWithdraw who amount] }

/-- **An amount comes back from the vault.** -/
def refunded : State AccountId :=
  { s with
    assets := s.assets.moved s.bridge.assetId s.bridge.pendingWithdrawVault who amount
    bridge := { s.bridge with pendingWithdraws := s.settled who amount }
    events := s.events ++ [.refund who amount] }

/-- **An amount stays in the vault** for good. -/
def finished : State AccountId :=
  { s with
    bridge := { s.bridge with pendingWithdraws := s.settled who amount }
    events := s.events ++ [.withdraw who amount] }

end State

omit [DecidableEq AccountId] in
/-- Forgetting transactions rewrites the history only. -/
theorem foldl_unseen (txHashes : List TxHash) (s : State AccountId) :
    ∃ m, txHashes.foldl State.unseen s = s.withBridge fun t => { t with depositHistory := m } := by
  induction txHashes generalizing s with
  | nil => exact ⟨_, rfl⟩
  | cons txHash txHashes ih =>
    obtain ⟨m, hm⟩ := ih (s.unseen txHash)
    exact ⟨m, hm⟩

/-- **Deposits that have waited are credited**, one after the other. -/
inductive State.Clears : State AccountId → List (Deposit AccountId) → State AccountId → Prop
  | nil (s : State AccountId) : Clears s [] s
  | cons {s t : State AccountId} {p : Deposit AccountId} {ps : List (Deposit AccountId)}
      {txHash : TxHash} (recorded : p.txHash = some txHash)
      (can : s.CanCredit p.accountId p.amount)
      (rest : Clears (s.credited p.accountId p.amount txHash) ps t) : Clears s (p :: ps) t

variable [Inhabited AccountId]

/-! ### Effects -/

/-- **What a step may do.** -/
inductive Effect (β : Build) (s : State AccountId) : Step AccountId → State AccountId → Prop
  /-- Nothing: the call was refused. -/
  | unchanged (i : Step AccountId) : Effect β s i s
  /-- The pallet is paused or resumed. -/
  | switched (origin : Origin AccountId) (call : Call AccountId) (paused : Bool) :
      Effect β s (.bridge origin call) (s.withBridge fun t => { t with paused := paused })
  /-- The ledger was called. -/
  | ledgerCall (origin : Origin AccountId) (call : GenericAsset.Call AccountId)
      (assets : GenericAsset.Store AccountId)
      (h : wp (GenericAsset.dispatch s.sudoKey origin call : GenericAsset.Prog β AccountId Unit)
        (fun _ t => t = assets) (fun _ t => t = assets) False s.assets) :
      Effect β s (.ledger origin call) { s with assets := assets }
  /-- A new deposit is credited. -/
  | credited (author account : AccountId) (amount : Balance) (txHash : TxHash)
      (fresh : s.bridge.isTxSeen txHash = false)
      (white : s.bridge.threshold ≤ amount → s.bridge.checkList account = some .white)
      (can : s.CanCredit account amount) :
      Effect β s (.bridge (.signed author) (.deposit account amount txHash))
        (s.credited account amount txHash)
  /-- A new deposit cannot be credited. -/
  | lost (author account : AccountId) (amount : Balance) (txHash : TxHash)
      (fresh : s.bridge.isTxSeen txHash = false) :
      Effect β s (.bridge (.signed author) (.deposit account amount txHash))
        (s.seen account amount txHash)
  /-- A new deposit is held. -/
  | held (author account : AccountId) (amount : Balance) (txHash : TxHash)
      (fresh : s.bridge.isTxSeen txHash = false) :
      Effect β s (.bridge (.signed author) (.deposit account amount txHash))
        (s.held account amount txHash)
  /-- An account is marked black. -/
  | blackened (author account : AccountId) (txHashes : List TxHash)
      (recorded : (s.bridge.pendingDepositList.get account).map Deposit.txHash =
        txHashes.map some) :
      Effect β s (.bridge (.signed author) (.markBlack account))
        ((txHashes.foldl State.unseen (s.taken account)).marked account .black)
  /-- An account is marked white. -/
  | whitened (author account : AccountId) {t : State AccountId}
      (clears : (s.taken account).Clears (s.bridge.pendingDepositList.get account) t) :
      Effect β s (.bridge (.signed author) (.markWhite account)) (t.marked account .white)
  /-- An account is not marked white, because one of its deposits cannot be credited. -/
  | stuck (author account : AccountId) {before ps : List (Deposit AccountId)}
      {p : Deposit AccountId} {txHash : TxHash} {t : State AccountId}
      (pendings : s.bridge.pendingDepositList.get account = before ++ p :: ps)
      (clears : (s.taken account).Clears before t) (recorded : p.txHash = some txHash) :
      Effect β s (.bridge (.signed author) (.markWhite account))
        ((t.seen p.accountId p.amount txHash).restored account (p :: ps))
  /-- Somebody has asked for an amount. -/
  | withdrawn (who : AccountId) (amount : Balance)
      (covered : amount ≤ s.assets.free s.bridge.assetId who) :
      Effect β s (.bridge (.signed who) (.withdraw amount)) (s.withdrawn who amount)
  /-- An amount was given back. -/
  | refunded (author who : AccountId) (amount : Balance)
      (asked : amount ∈ s.bridge.pendingWithdraws.get who)
      (covered : amount ≤ s.assets.free s.bridge.assetId s.bridge.pendingWithdrawVault) :
      Effect β s (.bridge (.signed author) (.refund who amount)) (s.refunded who amount)
  /-- A withdrawal was finished. -/
  | finished (author who : AccountId) (amount : Balance)
      (asked : amount ∈ s.bridge.pendingWithdraws.get who) :
      Effect β s (.bridge (.signed author) (.withdrawFinish who amount)) (s.finished who amount)

section Programs

variable {s : State AccountId}

omit [Inhabited AccountId] in
/-- **Crediting a deposit** goes through if it can be credited, and the transaction counts as
seen either way. -/
theorem simpleDeposit_cases (s : State AccountId) (account : AccountId) (amount : Balance)
    (txHash : TxHash) :
    (s.CanCredit account amount ∧
      (simpleDepositWithEvent account amount txHash : Prog β AccountId Unit) s =
        .ok () (s.credited account amount txHash)) ∨
      ¬s.CanCredit account amount ∧
        ∃ e, (simpleDepositWithEvent account amount txHash : Prog β AccountId Unit) s =
          .err e (s.seen account amount txHash) := by
  have hspec : wp (simpleDepositWithEvent account amount txHash : Prog β AccountId Unit)
      (fun _ t => s.CanCredit account amount ∧ t = s.credited account amount txHash)
      (fun _ t => ¬s.CanCredit account amount ∧ t = s.seen account amount txHash) False s := by
    simp only [simpleDepositWithEvent, depositEvent, wp_bind, wp_modify, wp_gets, wp_zoom]
    rcases GenericAsset.mintFree_cases (β := β) s.assets s.bridge.assetId s.sudoKey account amount
      with ⟨hcan, hx⟩ | ⟨hno, e, hx⟩
    · exact (wp_of_ok hx).mpr ⟨hcan, rfl⟩
    · exact (wp_of_err hx).mpr ⟨hno, rfl⟩
  rcases cases_of_wp hspec with ⟨_, _, hx, hcan, rfl⟩ | ⟨e, _, hx, hno, rfl⟩ | ⟨-, hno⟩
  · exact Or.inl ⟨hcan, hx⟩
  · exact Or.inr ⟨hno, e, hx⟩
  · exact hno.elim

omit [Inhabited AccountId] in
/-- **Crediting deposits that have waited** goes on until one cannot be credited. -/
theorem creditPendings_spec (account : AccountId) (pendings : List (Deposit AccountId)) :
    wp (creditPendings account pendings : Prog β AccountId Unit) (fun _ t => s.Clears pendings t)
      (fun _ t => ∃ before p ps txHash u, pendings = before ++ p :: ps ∧ s.Clears before u ∧
        p.txHash = some txHash ∧
        t = (u.seen p.accountId p.amount txHash).restored account (p :: ps)) True s := by
  induction pendings generalizing s with
  | nil => exact .nil s
  | cons p ps ih =>
    simp only [creditPendings, wp_bind, wp_unwrap, wp_orElse]
    refine ⟨fun _ _ => ⟨fun txHash htx => ?_, fun _ => trivial⟩, fun _ => trivial⟩
    rcases simpleDeposit_cases (β := β) s p.accountId p.amount txHash with
      ⟨hcan, hx⟩ | ⟨-, e, hx⟩
    · rw [wp_of_ok hx]
      refine wp_mono ih (fun _ t ht => .cons htx hcan ht) (fun _ t ht => ?_) id
      obtain ⟨before, p', ps', txHash', u, rfl, hclears, htx', rfl⟩ := ht
      exact ⟨p :: before, p', ps', txHash', u, rfl, .cons htx hcan hclears, htx', rfl⟩
    · rw [wp_of_err hx, wp_modify, wp_fail]
      exact ⟨[], p, ps, txHash, s, rfl, .nil s, htx, rfl⟩

omit [DecidableEq AccountId] [Inhabited AccountId] in
/-- Forgetting the transactions of some deposits. -/
theorem forget_spec (pendings : List (Deposit AccountId)) :
    wp (forEach pendings fun v => do
        let txHash ← unwrap v.txHash
        modify (State.withBridge fun t =>
          { t with depositHistory := t.depositHistory.remove txHash }) : Prog β AccountId Unit)
      (fun _ t => ∃ txHashes : List TxHash, pendings.map Deposit.txHash = txHashes.map some ∧
        t = txHashes.foldl State.unseen s) (fun _ _ => False) True s := by
  induction pendings generalizing s with
  | nil => exact ⟨[], rfl, rfl⟩
  | cons p ps ih =>
    simp only [wp_forEach_cons, wp_bind, wp_unwrap, wp_modify]
    refine ⟨fun txHash htx => ?_, fun _ => trivial⟩
    refine wp_mono ih (fun _ t ht => ?_) (fun _ _ h => h) id
    obtain ⟨txHashes, hmap, rfl⟩ := ht
    exact ⟨txHash :: txHashes, by rw [List.map_cons, List.map_cons, hmap, htx], rfl⟩

omit [Inhabited AccountId] in
/-- Taking an amount off what an account has asked for. -/
theorem wp_removeFromPendingWithdraws {who : AccountId} {amount : Balance}
    {Q : Unit → State AccountId → Prop} {E : DispatchError → State AccountId → Prop} {P : Prop} :
    wp (removeFromPendingWithdraws who amount : Prog β AccountId Unit) Q E P s ↔
      Q () (s.withBridge fun t => { t with pendingWithdraws := s.settled who amount }) := by
  simp only [removeFromPendingWithdraws, wp_bind, wp_gets, wp_modify, wp_ite, wp_pure]
  unfold State.settled
  split
  · rename_i hlong
    simp only [hlong, true_imp_iff, not_true_eq_false, false_imp_iff, and_true]
  · rename_i hshort
    simp only [hshort, false_imp_iff, not_false_iff, true_imp_iff, true_and]

end Programs

/-! ### Steps -/

section Steps

variable {s s' : State AccountId} {origin : Origin AccountId} {i : Step AccountId}

omit [Inhabited AccountId] in
/-- A deposit is held unless its account is white. -/
theorem checkList_eq_white {t : Store AccountId} {account : AccountId} {amount : Balance}
    (h : ¬(t.threshold ≤ amount ∧
      (t.checkList account = none ∨ t.checkList account = some .black))) :
    t.threshold ≤ amount → t.checkList account = some .white := by
  intro hle
  rcases hbow : t.checkList account with _ | (_ | _)
  · exact (h ⟨hle, Or.inl hbow⟩).elim
  · exact (h ⟨hle, Or.inr hbow⟩).elim
  · rfl

/-- **A call of the bridge** has one of the listed effects. -/
theorem dispatch_effect (call : Call AccountId) :
    wp (dispatch origin call : Prog β AccountId Unit)
      (fun _ t => Effect β s (.bridge origin call) t)
      (fun _ t => Effect β s (.bridge origin call) t) True s := by
  have hsame : Effect β s (.bridge origin call) s := .unchanged _
  cases call with
  | pause =>
    simp only [dispatch, pause, wp_bind, wp_ensureRoot, wp_modify]
    exact ⟨fun _ => .switched origin _ true, fun _ => hsame⟩
  | resume =>
    simp only [dispatch, resume, wp_bind, wp_ensureRoot, wp_modify]
    exact ⟨fun _ => .switched origin _ false, fun _ => hsame⟩
  | deposit account amount txHash =>
    simp only [dispatch, deposit, wp_bind, wp_gets, wp_ensure, wp_ensureSigned, wp_ite]
    refine ⟨fun hfresh => ⟨?_, fun _ => hsame⟩, fun _ => hsame⟩
    rintro author rfl
    refine ⟨fun _ => ⟨fun _ => ?_, fun hwhite => ?_⟩, fun _ => hsame⟩
    · simp only [holdDepositWithEvent, depositEvent, wp_bind, wp_modify]
      exact .held author account amount txHash hfresh
    · rcases simpleDeposit_cases (β := β) s account amount txHash with ⟨hcan, hx⟩ | ⟨-, e, hx⟩
      · exact (wp_of_ok hx).mpr
          (.credited author account amount txHash hfresh (checkList_eq_white hwhite) hcan)
      · exact (wp_of_err hx).mpr (.lost author account amount txHash hfresh)
  | refund who amount =>
    simp only [dispatch, refund, wp_bind, wp_gets, wp_ensure, wp_ensureSigned, wp_zoom,
      GenericAsset.makeTransferWithEvent, GenericAsset.wp_makeTransfer,
      wp_removeFromPendingWithdraws, depositEvent, wp_modify]
    refine ⟨?_, fun _ => hsame⟩
    rintro author rfl
    refine ⟨fun _ => ⟨fun hasked => ⟨fun hcov => ⟨fun _ => trivial, fun _ => ?_⟩, fun _ => hsame⟩,
      fun _ => hsame⟩, fun _ => hsame⟩
    exact .refunded author who amount hasked hcov
  | withdrawFinish who amount =>
    simp only [dispatch, withdrawFinish, wp_bind, wp_gets, wp_ensure, wp_ensureSigned,
      wp_removeFromPendingWithdraws, depositEvent, wp_modify]
    refine ⟨?_, fun _ => hsame⟩
    rintro author rfl
    refine ⟨fun _ => ⟨fun hasked => ?_, fun _ => hsame⟩, fun _ => hsame⟩
    exact .finished author who amount hasked
  | withdraw amount =>
    simp only [dispatch, withdraw, wp_bind, wp_gets, wp_ensureSigned, wp_zoom,
      GenericAsset.makeTransferWithEvent, GenericAsset.wp_makeTransfer, wp_ite, depositEvent,
      wp_modify]
    refine ⟨?_, fun _ => hsame⟩
    rintro who rfl
    refine ⟨fun hcov => ⟨fun _ => trivial, fun _ => ⟨fun _ => ?_, fun hnew => ?_⟩⟩,
      fun _ => hsame⟩
    · exact .withdrawn who amount hcov
    -- the first withdrawal of an account starts its list
    · have hnil : s.bridge.pendingWithdraws.get who = [] :=
        StorageMap.get_of_not_containsKey hnew
      have heff : Effect β s (.bridge (.signed who) (.withdraw amount)) (s.withdrawn who amount) :=
        .withdrawn who amount hcov
      rw [State.withdrawn, State.asked, hnil] at heff
      exact heff
  | markBlack account =>
    simp only [dispatch, markBlack, takePendings, markWithEvent, mark, depositEvent, wp_bind,
      wp_gets, wp_ensure, wp_ensureSigned, wp_modify, wp_pure]
    refine ⟨?_, fun _ => hsame⟩
    rintro author rfl
    refine ⟨fun _ => ?_, fun _ => hsame⟩
    refine wp_mono (forget_spec _) (fun _ t ht => ?_) (fun _ _ h => h.elim) id
    obtain ⟨txHashes, hmap, rfl⟩ := ht
    exact .blackened author account txHashes hmap
  | markWhite account =>
    simp only [dispatch, markWhite, takePendings, markWithEvent, mark, depositEvent, wp_bind,
      wp_gets, wp_ensure, wp_ensureSigned, wp_modify, wp_pure]
    refine ⟨?_, fun _ => hsame⟩
    rintro author rfl
    refine ⟨fun _ => ?_, fun _ => hsame⟩
    refine wp_mono (creditPendings_spec account _) (fun _ t ht => .whitened author account ht)
      (fun _ t ht => ?_) id
    obtain ⟨before, p, ps, txHash, u, hpendings, hclears, htx, rfl⟩ := ht
    exact .stuck author account hpendings hclears htx

/-- **What the program of a step does**, where it does not panic. -/
theorem exec_effect :
    wp (i.exec : Prog β AccountId Unit) (fun _ t => Effect β s i t) (fun _ t => Effect β s i t)
      True s := by
  cases i with
  | bridge origin call => exact dispatch_effect call
  | ledger origin call =>
    simp only [Step.exec, wp_bind, wp_gets, wp_zoom]
    rcases cases_of_wp (wp_trivial (x := (GenericAsset.dispatch s.sudoKey origin call :
      GenericAsset.Prog β AccountId Unit)) (s := s.assets)) with
      ⟨_, t, hx, -⟩ | ⟨_, t, hx, -⟩ | ⟨hx, -⟩
    · exact (wp_of_ok hx).mpr (.ledgerCall origin call t ((wp_of_ok hx).mpr rfl))
    · exact (wp_of_err hx).mpr (.ledgerCall origin call t ((wp_of_err hx).mpr rfl))
    · exact (wp_of_panic hx).mpr trivial

/-- **The step rule**: what the program of a step establishes whether or not it returns an error,
and what the old state has, the new state has. -/
theorem next_of_wp {R : State AccountId → Prop} (h : next β i s = some s')
    (hwp : wp (i.exec : Prog β AccountId Unit) (fun _ t => R t) (fun _ t => R t) True s)
    (hs : R s) : R s' := by
  refine of_settled hwp (fun _ _ hx => ?_) (fun _ _ hx => ?_) (fun hx _ heq => ?_) h
  · rw [next, hx]
  · rw [next, hx]
  · rw [next, hx] at heq
    exact Option.some.inj heq ▸ hs

/-- **The list of effects is complete.** -/
theorem next_effect (h : next β i s = some s') : Effect β s i s' :=
  next_of_wp h exec_effect (.unchanged i)

end Steps

end Bridge

end MoneyPool
