import MoneyPool.Pallet.Simulation
import MoneyPool.Bridge.EventLog

/-!
# The life of a transaction

A transaction is away, waits for the mark of the account it pays, or has been credited
(`MoneyPool.Bridge.TxStage`). In the events of the bridge it goes from one to the next in the only
ways there are: it is credited or held as it comes in, what is held is credited as it was held, to
the same account and with the same amount, and it is away again only after its account was marked
black. The events that are about a transaction are therefore a run of a small machine, which ends in
the stage that the storage has it in (`MoneyPool.Bridge.tx_life`).

A transaction may also be lost: it counts as seen although it was not credited and does not wait. No
event tells so, and to the small machine it is away. It stays lost, whatever is called
(`MoneyPool.Bridge.lost_forever`).
-/

namespace MoneyPool

namespace Bridge

open Pallet Pallet.Exec

variable {AccountId : Type} [DecidableEq AccountId] {β : Build}

/-! ### The small machine -/

/-- What an event may say of a transaction. -/
inductive TxEvent (AccountId : Type) where
  | held (account : AccountId) (amount : Balance) : TxEvent AccountId
  | credited (account : AccountId) (amount : Balance) : TxEvent AccountId
  | blackened (account : AccountId) : TxEvent AccountId
  deriving DecidableEq

/-- **What an event says of a transaction**, if anything. -/
def Event.ofTx (txHash : TxHash) : Event AccountId → Option (TxEvent AccountId)
  | .pending account amount tx => if tx = txHash then some (.held account amount) else none
  | .deposit account amount tx => if tx = txHash then some (.credited account amount) else none
  | .accountMarked account .black => some (.blackened account)
  | _ => none

/-- **Where a transaction is.** -/
inductive TxStage (AccountId : Type) where
  /-- It was never credited, and does not wait. -/
  | away : TxStage AccountId
  | waits (account : AccountId) (amount : Balance) : TxStage AccountId
  | credited (account : AccountId) (amount : Balance) : TxStage AccountId
  deriving DecidableEq

/-- **The transitions of a transaction.** -/
def TxStage.next : TxEvent AccountId → TxStage AccountId → Option (TxStage AccountId)
  | .held account amount, .away => some (.waits account amount)
  | .credited account amount, .away => some (.credited account amount)
  | .credited account amount, .waits account' amount' =>
    if account = account' ∧ amount = amount' then some (.credited account amount) else none
  | .blackened account, .waits account' amount =>
    some (if account = account' then .away else .waits account' amount)
  | .blackened _, t => some t
  | _, _ => none

/-! ### Stages in the storage -/

namespace State

variable (s : State AccountId)

/-- A transaction waits for no account. -/
def WaitsNowhere (txHash : TxHash) : Prop := ∀ who, ∀ d ∈ s.pendings who, d.txHash ≠ some txHash

/-- **The stage of a transaction**, as what waits and what was credited tell it. -/
def TxAt (txHash : TxHash) : TxStage AccountId → Prop
  | .away => s.WaitsNowhere txHash ∧ txHash ∉ s.creditedTxs
  | .waits account amount => State.waiting account amount txHash ∈ s.pendings account
  | .credited account amount => .deposit account amount txHash ∈ s.events

end State

section Lists

variable {s t : State AccountId} {account : AccountId} {txHash tx : TxHash}
  {p : Deposit AccountId} {ps : List (Deposit AccountId)}

/-! ### Credits, as a transaction sees them -/

omit [DecidableEq AccountId] in
/-- A transaction that is not among some deposits sees nothing of their credits. -/
theorem ofTx_creditsOf_of_not_mem (h : ∀ d ∈ ps, d.txHash ≠ some txHash) :
    (creditsOf ps).filterMap (Event.ofTx txHash) = [] := by
  refine List.filterMap_eq_nil_iff.mpr fun e he => ?_
  obtain ⟨d, hd, hmap⟩ := List.mem_filterMap.mp he
  obtain ⟨tx, htx, rfl⟩ := Option.map_eq_some_iff.mp hmap
  have hne : ¬tx = txHash := fun heq => h d hd (heq ▸ htx)
  exact if_neg hne

omit [DecidableEq AccountId] in
/-- A transaction that is among them once sees its credit. -/
theorem ofTx_creditsOf_of_mem (hrecorded : ∀ d ∈ ps, ∃ tx, d.txHash = some tx)
    (hone : txCount txHash ps ≤ 1) (hmem : p ∈ ps) (hp : p.txHash = some txHash) :
    (creditsOf ps).filterMap (Event.ofTx txHash) = [.credited p.accountId p.amount] := by
  induction ps with
  | nil => exact absurd hmem List.not_mem_nil
  | cons d ps ih =>
    obtain ⟨⟨tx, htx⟩, hmore⟩ := List.forall_mem_cons.mp hrecorded
    rw [creditsOf_cons htx]
    rcases eq_or_ne tx txHash with rfl | hne
    · -- this is the deposit, and no other one has its transaction
      rw [txCount_cons_self htx] at hone
      have hnone : ∀ d ∈ ps, d.txHash ≠ some tx := fun d hd heq =>
        absurd (txCount_pos heq hd) (by omega)
      have hpd : p = d := by
        rcases List.mem_cons.mp hmem with heq | hlater
        · exact heq
        · exact absurd hp (hnone p hlater)
      have hfirst : Event.ofTx tx (.deposit d.accountId d.amount tx) =
          some (.credited d.accountId d.amount) := if_pos rfl
      rw [List.filterMap_cons_some hfirst, ofTx_creditsOf_of_not_mem hnone, hpd]
    · have hfirst : Event.ofTx txHash (.deposit d.accountId d.amount tx) = none := if_neg hne
      rw [List.filterMap_cons_none hfirst]
      refine ih hmore ((txCount_le_cons d ps txHash).trans hone) ?_
      rcases List.mem_cons.mp hmem with rfl | hlater
      · exact absurd (Option.some.inj (htx.symm.trans hp)) hne
      · exact hlater

omit [DecidableEq AccountId] in
/-- The events of some credits. -/
theorem mem_creditsOf_iff {amount : Balance} : Event.deposit account amount txHash ∈ creditsOf ps ↔
    ∃ d ∈ ps, d.txHash = some txHash ∧ d.accountId = account ∧ d.amount = amount := by
  refine List.mem_filterMap.trans (exists_congr fun d => and_congr_right fun _ => ?_)
  rw [Option.map_eq_some_iff]
  constructor
  · rintro ⟨tx, htx, heq⟩
    cases heq
    exact ⟨htx, rfl, rfl⟩
  · rintro ⟨htx, rfl, rfl⟩
    exact ⟨txHash, htx, rfl⟩

omit [DecidableEq AccountId] in
/-- A transaction that occurs once, occurs in one deposit. -/
theorem eq_of_txCount_le_one {d d' : Deposit AccountId} (hone : txCount txHash ps ≤ 1)
    (hd : d ∈ ps) (hd' : d' ∈ ps) (htx : d.txHash = some txHash) (htx' : d'.txHash = some txHash) :
    d = d' := by
  induction ps with
  | nil => exact absurd hd List.not_mem_nil
  | cons p ps ih =>
    have hnone : p.txHash = some txHash → ∀ q ∈ ps, q.txHash ≠ some txHash := by
      intro hp q hq hqtx
      rw [txCount_cons_self hp] at hone
      exact absurd (txCount_pos hqtx hq) (by omega)
    rcases List.mem_cons.mp hd with rfl | hlater
    · rcases List.mem_cons.mp hd' with rfl | hlater'
      · rfl
      · exact absurd htx' (hnone htx d' hlater')
    · rcases List.mem_cons.mp hd' with rfl | hlater'
      · exact absurd htx (hnone htx' d hlater)
      · exact ih ((txCount_le_cons p ps txHash).trans hone) hlater hlater'

end Lists

/-! ### Stages, step by step -/

section Stages

variable {s s' t : State AccountId} {who who' account : AccountId} {amount : Balance}
  {txHash tx : TxHash} {stage : TxStage AccountId} {d d' : Deposit AccountId}
  {ps before rest : List (Deposit AccountId)}

omit [DecidableEq AccountId] in
/-- What has been credited has an event. -/
theorem mem_creditedTxs_iff : txHash ∈ s.creditedTxs ↔
    ∃ account amount, Event.deposit account amount txHash ∈ s.events := by
  refine List.mem_filterMap.trans ⟨?_, ?_⟩
  · rintro ⟨e, he, htx⟩
    cases e with
    | deposit account amount tx => exact ⟨account, amount, Option.some.inj htx ▸ he⟩
    | accountMarked => cases htx
    | pending => cases htx
    | pendingWithdraw => cases htx
    | refund => cases htx
    | withdraw => cases htx
  · rintro ⟨account, amount, he⟩
    exact ⟨_, he, rfl⟩

namespace State

/-- What waits has not been credited. -/
theorem CreditedOnce.not_credited (h : s.CreditedOnce who []) (hd : d ∈ s.pendings who)
    (htx : d.txHash = some txHash) : txHash ∉ s.creditedTxs := by
  obtain ⟨tx, hw⟩ := h.stored who d hd
  obtain rfl := Option.some.inj (hw.recorded.symm.trans htx)
  exact hw.uncredited

/-- A transaction waits once for an account. -/
theorem CreditedOnce.txCount_le (h : s.CreditedOnce account []) (who : AccountId)
    (txHash : TxHash) : txCount txHash (s.pendings who) ≤ 1 :=
  (StorageMap.le_total_get (f := fun _ deposits => txCount txHash deposits) (fun _ => rfl)
    s.bridge.pendingDepositList who).trans (h.waitsOnce txHash)

/-- What waits for an account, waits for no other one. -/
theorem CreditedOnce.unique (h : s.CreditedOnce account []) (hd : d ∈ s.pendings who)
    (hd' : d' ∈ s.pendings who') (htx : d.txHash = some txHash) (htx' : d'.txHash = some txHash) :
    who = who' := by
  by_contra hne
  have hone := txCount_pos htx hd
  have hother := txCount_pos htx' hd'
  have hboth := StorageMap.weight_add_weight_le_total
    (f := fun _ deposits => txCount txHash deposits) s.bridge.pendingDepositList hne
  rw [StorageMap.weight_eq (fun _ => rfl), StorageMap.weight_eq (fun _ => rfl)] at hboth
  have hle : s.bridge.pendingDepositList.total (fun _ deposits => txCount txHash deposits) + 0 ≤
      1 := h.waitsOnce txHash
  change txCount txHash (s.pendings who) + txCount txHash (s.pendings who') ≤ _ at hboth
  omega

/-- **Nothing happens to a transaction** that waits as before and is credited as before. -/
theorem TxAt.of_same (h : s.TxAt txHash stage) (hpendings : ∀ who d, d.txHash = some txHash →
      (d ∈ t.pendings who ↔ d ∈ s.pendings who))
    (hevents : ∀ account amount, Event.deposit account amount txHash ∈ t.events ↔
      Event.deposit account amount txHash ∈ s.events) : t.TxAt txHash stage := by
  cases stage with
  | away =>
    obtain ⟨hnowhere, hnew⟩ := h
    refine ⟨fun who d hd htx => hnowhere who d ((hpendings who d htx).mp hd) htx, fun hmem => ?_⟩
    obtain ⟨account, amount, he⟩ := mem_creditedTxs_iff.mp hmem
    exact hnew (mem_creditedTxs_iff.mpr ⟨account, amount, (hevents account amount).mp he⟩)
  | waits account amount => exact (hpendings account _ rfl).mpr h
  | credited account amount => exact (hevents account amount).mpr h

/-- A deposit that waits with a transaction is the only one. -/
theorem CreditedOnce.eq_waiting (h : s.CreditedOnce who []) {a : AccountId} {n : Balance}
    (hwaits : State.waiting a n txHash ∈ s.pendings a) (hd : d ∈ s.pendings who)
    (htx : d.txHash = some txHash) : who = a ∧ d = State.waiting a n txHash := by
  obtain rfl := h.unique hd hwaits htx rfl
  refine ⟨rfl, eq_of_txCount_le_one (h.txCount_le who txHash) hd hwaits htx rfl⟩

/-- A transaction that has not been seen is away. -/
theorem TxAt.of_fresh (honce : s.CreditedOnce who []) (h : s.TxAt txHash stage)
    (hfresh : s.bridge.isTxSeen txHash = false) : stage = .away := by
  obtain ⟨hnew, hzero⟩ := honce.fresh hfresh
  cases stage with
  | away => rfl
  | waits account amount => exact absurd rfl (ne_of_pendingCount hzero h)
  | credited account amount => exact absurd (mem_creditedTxs_iff.mpr ⟨account, amount, h⟩) hnew

/-- **A transaction goes on**: the new events take it from a stage to the one it is in afterwards,
and a transaction that is away and was seen does not get on. -/
def Follows (s t : State AccountId) (txHash : TxHash) (stage : TxStage AccountId) : Prop :=
  ∃ new stage', t.events = s.events ++ new ∧
    run TxStage.next (new.filterMap (Event.ofTx txHash)) stage = some stage' ∧
    t.TxAt txHash stage' ∧
    (stage = .away → s.bridge.isTxSeen txHash = true → stage' = .away)

/-- **A step that is not about a transaction.** -/
theorem TxAt.quiet (h : s.TxAt txHash stage) {new : List (Event AccountId)}
    (hevents : t.events = s.events ++ new) (hnew : new.filterMap (Event.ofTx txHash) = [])
    (hpendings : ∀ who d, d.txHash = some txHash →
      (d ∈ t.pendings who ↔ d ∈ s.pendings who)) : s.Follows t txHash stage := by
  refine ⟨new, stage, hevents, by rw [hnew]; rfl, h.of_same hpendings fun account amount => ?_,
    fun haway _ => haway⟩
  rw [hevents, List.mem_append]
  refine or_iff_left fun hmem => ?_
  have hnone := List.filterMap_eq_nil_iff.mp hnew _ hmem
  rw [Event.ofTx, if_pos rfl] at hnone
  cases hnone

/-- **Crediting a first part of what waits for an account** credits a transaction as it waits, or
does nothing to it. -/
theorem TxAt.released (honce : s.CreditedOnce account []) (h : s.TxAt txHash stage)
    (hsplit : s.pendings account = before ++ rest) {more : List (Event AccountId)}
    (hevents : t.events = s.events ++ (creditsOf before ++ more))
    (hmore : more.filterMap (Event.ofTx txHash) = [])
    (hpendings : ∀ who, t.pendings who = if who = account then rest else s.pendings who) :
    s.Follows t txHash stage := by
  have hread : (creditsOf before ++ more).filterMap (Event.ofTx txHash) =
      (creditsOf before).filterMap (Event.ofTx txHash) := by
    rw [List.filterMap_append, hmore, List.append_nil]
  by_cases hnone : ∀ d ∈ before, d.txHash ≠ some txHash
  · refine h.quiet hevents (hread.trans (ofTx_creditsOf_of_not_mem hnone)) fun who d htx => ?_
    rw [hpendings]
    rcases eq_or_ne who account with rfl | hne
    · rw [if_pos rfl, hsplit, List.mem_append]
      exact ⟨Or.inr, fun hmem => hmem.resolve_left fun hd => hnone d hd htx⟩
    · rw [if_neg hne]
  · push Not at hnone
    obtain ⟨d, hd, htx⟩ := hnone
    have hmem : d ∈ s.pendings account := hsplit ▸ List.mem_append_left _ hd
    cases stage with
    | away => exact absurd htx (h.1 account d hmem)
    | credited a n =>
      exact absurd (mem_creditedTxs_iff.mpr ⟨a, n, h⟩) (honce.not_credited hmem htx)
    | waits a n =>
      obtain ⟨rfl, rfl⟩ := honce.eq_waiting h hmem htx
      have hrecorded : ∀ d ∈ before, ∃ tx, d.txHash = some tx := by
        intro d hd
        have hd' : d ∈ s.pendings account := hsplit ▸ List.mem_append_left _ hd
        obtain ⟨tx, hw⟩ := honce.stored account d hd'
        exact ⟨tx, hw.recorded⟩
      have hle : txCount txHash before ≤ 1 := by
        have hall := honce.txCount_le account txHash
        rw [hsplit, txCount_append] at hall
        omega
      refine ⟨_, .credited account n, hevents, ?_, ?_, fun h => by cases h⟩
      · rw [hread, ofTx_creditsOf_of_mem hrecorded hle hd htx]
        exact run_singleton (if_pos ⟨rfl, rfl⟩)
      · show Event.deposit account n txHash ∈ t.events
        rw [hevents]
        exact List.mem_append_right _
          (List.mem_append_left _ (mem_creditsOf_iff.mpr ⟨_, hd, htx, rfl, rfl⟩))

/-- A new deposit is held. -/
theorem TxAt.held (honce : s.CreditedOnce account []) (h : s.TxAt txHash stage)
    (hfresh : s.bridge.isTxSeen tx = false) (amount : Balance) :
    s.Follows (s.held account amount tx) txHash stage := by
  have hpendings : ∀ who, (s.held account amount tx).pendings who = if who = account then
      s.pendings account ++ [State.waiting account amount tx] else s.pendings who :=
    fun who => StorageMap.get_mutate ..
  rcases eq_or_ne tx txHash with rfl | hne
  · obtain rfl := h.of_fresh honce hfresh
    refine ⟨_, .waits account amount, rfl, ?_, ?_, fun _ hseen => ?_⟩
    · have hread : Event.ofTx tx (.pending account amount tx) = some (.held account amount) :=
        if_pos rfl
      rw [List.filterMap_cons_some hread]
      rfl
    · show State.waiting account amount tx ∈ (s.held account amount tx).pendings account
      rw [hpendings, if_pos rfl]
      exact List.mem_append_right _ (List.mem_singleton_self _)
    · rw [hfresh] at hseen
      cases hseen
  · have hread : Event.ofTx txHash (.pending account amount tx) = none := if_neg hne
    refine h.quiet rfl (List.filterMap_cons_none hread) fun who d htx => ?_
    rw [hpendings]
    rcases eq_or_ne who account with rfl | hwho
    · rw [if_pos rfl, List.mem_append, List.mem_singleton]
      refine or_iff_left fun heq => hne ?_
      rw [heq] at htx
      exact Option.some.inj htx
    · rw [if_neg hwho]

/-- An account is marked black. -/
theorem TxAt.blackened (honce : s.CreditedOnce account []) (h : s.TxAt txHash stage)
    (hevents : t.events = s.events ++ [.accountMarked account .black])
    (hpendings : ∀ who, t.pendings who = if who = account then [] else s.pendings who) :
    s.Follows t txHash stage := by
  have hmem : ∀ who d, d ∈ t.pendings who → d ∈ s.pendings who ∧ who ≠ account := by
    intro who d hd
    rw [hpendings] at hd
    split at hd
    · exact absurd hd List.not_mem_nil
    · rename_i hne
      exact ⟨hd, hne⟩
  have hcredited : txHash ∈ t.creditedTxs ↔ txHash ∈ s.creditedTxs := by
    rw [State.creditedTxs, hevents, creditedBy_append]
    exact List.mem_append.trans (or_iff_left List.not_mem_nil)
  cases stage with
  | away =>
    exact ⟨_, .away, hevents, rfl,
      ⟨fun who d hd => h.1 who d (hmem who d hd).1, fun hc => h.2 (hcredited.mp hc)⟩,
      fun _ _ => rfl⟩
  | credited a n =>
    refine ⟨_, .credited a n, hevents, rfl, ?_, fun h => by cases h⟩
    show Event.deposit a n txHash ∈ t.events
    rw [hevents]
    exact List.mem_append_left _ h
  | waits a n =>
    rcases eq_or_ne account a with rfl | hne
    · refine ⟨_, .away, hevents, run_singleton (congrArg some (if_pos rfl)),
        ⟨fun who d hd htx => ?_, fun hc => honce.not_credited h rfl (hcredited.mp hc)⟩,
        fun _ _ => rfl⟩
      -- what waits with the transaction has waited for the account that is marked
      obtain ⟨hold, hwho⟩ := hmem who d hd
      exact hwho (honce.unique hold h htx rfl)
    · refine ⟨_, .waits a n, hevents, run_singleton (congrArg some (if_neg hne)), ?_,
        fun h => by cases h⟩
      show State.waiting a n txHash ∈ t.pendings a
      rw [hpendings, if_neg (Ne.symm hne)]
      exact h

end State

variable [Inhabited AccountId] {i : Step AccountId}

/-- **A transaction goes on by its transitions** with every step. -/
theorem Effect.follows (heff : Effect β s i s') (honce : ∀ account, s.CreditedOnce account [])
    (h : s.TxAt txHash stage) : s.Follows s' txHash stage := by
  have hsame : ∀ {t : State AccountId} {new : List (Event AccountId)}, t.events = s.events ++ new →
      new.filterMap (Event.ofTx txHash) = [] →
      t.bridge.pendingDepositList = s.bridge.pendingDepositList → s.Follows t txHash stage :=
    fun hevents hnew hpendings => h.quiet hevents hnew fun who d _ => by
      rw [State.pendings, hpendings]
      rfl
  have hquiet : ∀ {t : State AccountId}, t.events = s.events →
      t.bridge.pendingDepositList = s.bridge.pendingDepositList → s.Follows t txHash stage :=
    fun hevents => hsame (hevents.trans (List.append_nil _).symm) rfl
  cases heff with
  | unchanged => exact hquiet rfl rfl
  | switched => exact hquiet rfl rfl
  | ledgerCall => exact hquiet rfl rfl
  | credited author account amount tx hfresh =>
    rcases eq_or_ne tx txHash with rfl | hne
    · obtain rfl := h.of_fresh (honce account) hfresh
      refine ⟨_, .credited account amount, rfl, ?_,
        List.mem_append_right _ (List.mem_singleton_self _), fun _ hseen => ?_⟩
      · have hread : Event.ofTx tx (.deposit account amount tx) =
            some (.credited account amount) := if_pos rfl
        rw [List.filterMap_cons_some hread]
        rfl
      · rw [hfresh] at hseen
        cases hseen
    · have hread : Event.ofTx txHash (.deposit account amount tx) = none := if_neg hne
      exact hsame rfl (List.filterMap_cons_none hread) rfl
  | lost => exact hquiet rfl rfl
  | held author account amount tx hfresh => exact h.held (honce account) hfresh amount
  | blackened author account txHashes =>
    obtain ⟨m, hm⟩ := foldl_unseen txHashes (s.taken account)
    rw [hm]
    exact h.blackened (honce account) rfl fun who => pendings_taken account
  | @whitened author account t hclears =>
    have hpendings : ∀ who, t.pendings who = if who = account then [] else s.pendings who :=
      fun who => hclears.pendings.trans (pendings_taken account)
    have hevents : (t.marked account .white).events =
        s.events ++ (creditsOf (s.pendings account) ++ [Event.accountMarked account .white]) := by
      rw [← List.append_assoc]
      exact congrArg (· ++ [Event.accountMarked account .white]) hclears.events
    exact h.released (honce account) (List.append_nil _).symm hevents rfl hpendings
  | @stuck author account before ps p tx t hsplit hclears =>
    have hevents : ((t.seen p.accountId p.amount tx).restored account (p :: ps)).events =
        s.events ++ (creditsOf before ++ []) := by
      rw [List.append_nil]
      exact hclears.events
    refine h.released (honce account) hsplit hevents rfl fun who => ?_
    rw [State.pendings, State.restored, StorageMap.get_insert]
    rcases eq_or_ne who account with heq | hne
    · rw [if_pos heq, if_pos heq]
    · rw [if_neg hne, if_neg hne]
      exact hclears.pendings.trans ((pendings_taken account).trans (if_neg hne))
  | withdrawn => exact hsame rfl rfl rfl
  | refunded => exact hsame rfl rfl rfl
  | finished => exact hsame rfl rfl rfl

end Stages

/-! ### Lost transactions -/

/-- **A transaction is lost**: it counts as seen, but was not credited and does not wait. -/
structure State.Lost (s : State AccountId) (txHash : TxHash) : Prop where
  seen : s.bridge.isTxSeen txHash = true
  nowhere : s.WaitsNowhere txHash
  uncredited : txHash ∉ s.creditedTxs

/-- **The stage of a transaction, as the storage has it.** What is away waits nowhere, and counts as
seen exactly if it is lost. What waits counts as seen, and waits in one deposit of one account. What
was credited counts as seen, waits nowhere, and was credited once. -/
def State.Stands (s : State AccountId) (txHash : TxHash) : TxStage AccountId → Prop
  | .away => s.WaitsNowhere txHash ∧ txHash ∉ s.creditedTxs ∧
      (s.bridge.isTxSeen txHash = true ↔ s.Lost txHash)
  | .waits account amount => s.bridge.isTxSeen txHash = true ∧
      State.waiting account amount txHash ∈ s.pendings account ∧ s.pendingCount txHash = 1
  | .credited account amount => s.bridge.isTxSeen txHash = true ∧ s.WaitsNowhere txHash ∧
      .deposit account amount txHash ∈ s.events ∧ s.creditedTxs.count txHash = 1

section Lost

variable [Inhabited AccountId] {s s' t : State AccountId} {txHash : TxHash} {i : Step AccountId}
  {account : AccountId} {ps : List (Deposit AccountId)}

omit [Inhabited AccountId] in
/-- **The storage has a transaction in its stage**, where every transaction is credited once. -/
theorem State.TxAt.stands {stage : TxStage AccountId}
    (honce : ∀ account, s.CreditedOnce account []) (h : s.TxAt txHash stage) :
    s.Stands txHash stage := by
  cases stage with
  | away => exact ⟨h.1, h.2, fun hseen => ⟨hseen, h.1, h.2⟩, Lost.seen⟩
  | waits a n =>
    obtain ⟨tx, hw⟩ := (honce a).stored a _ h
    obtain rfl := Option.some.inj hw.recorded
    have hpos : s.pendingCount txHash ≠ 0 := fun hzero => ne_of_pendingCount hzero h rfl
    have hle := (honce a).waitsOnce txHash
    exact ⟨hw.seen, h, by omega⟩
  | credited a n =>
    have hmem : txHash ∈ s.creditedTxs := mem_creditedTxs_iff.mpr ⟨a, n, h⟩
    refine ⟨(honce a).seen txHash hmem, fun who d hd htx => ?_, h, ?_⟩
    · exact (honce who).not_credited hd htx hmem
    · exact List.count_eq_one_of_mem (honce a).once hmem

omit [Inhabited AccountId] in
/-- Crediting deposits forgets no transaction. -/
theorem State.Clears.isTxSeen (h : s.Clears ps t) (hseen : s.bridge.isTxSeen txHash = true) :
    t.bridge.isTxSeen txHash = true := by
  induction h with
  | nil => exact hseen
  | cons _ _ _ ih => exact ih (isTxSeen_seen.mpr (Or.inr hseen))

omit [DecidableEq AccountId] [Inhabited AccountId] in
/-- Only the transactions that are named are forgotten. -/
theorem isTxSeen_foldl_unseen {txHashes : List TxHash} (hnot : txHash ∉ txHashes)
    (hseen : s.bridge.isTxSeen txHash = true) :
    (txHashes.foldl State.unseen s).bridge.isTxSeen txHash = true := by
  induction txHashes generalizing s with
  | nil => exact hseen
  | cons tx txHashes ih =>
    rw [List.mem_cons, not_or] at hnot
    exact ih hnot.2 (isTxSeen_unseen.mpr ⟨hnot.1, hseen⟩)

/-- What was seen and does not wait, stays seen. -/
theorem Effect.isTxSeen (heff : Effect β s i s') (hseen : s.bridge.isTxSeen txHash = true)
    (hnowhere : s.WaitsNowhere txHash) : s'.bridge.isTxSeen txHash = true := by
  have hmore : ∀ account amount tx, (s.seen account amount tx).bridge.isTxSeen txHash = true :=
    fun _ _ _ => isTxSeen_seen.mpr (Or.inr hseen)
  cases heff with
  | unchanged => exact hseen
  | switched => exact hseen
  | ledgerCall => exact hseen
  | credited author account amount tx => exact hmore account amount tx
  | lost author account amount tx => exact hmore account amount tx
  | held author account amount tx => exact hmore account amount tx
  | blackened author account txHashes hrecorded =>
    refine isTxSeen_foldl_unseen (fun hmem => ?_) hseen
    have hwaits : some txHash ∈ (s.pendings account).map Deposit.txHash := by
      rw [State.pendings, hrecorded]
      exact List.mem_map_of_mem hmem
    obtain ⟨d, hd, htx⟩ := List.mem_map.mp hwaits
    exact hnowhere account d hd htx
  | whitened author account hclears => exact hclears.isTxSeen hseen
  | stuck author account hsplit hclears =>
    exact isTxSeen_seen.mpr (Or.inr (hclears.isTxSeen hseen))
  | withdrawn => exact hseen
  | refunded => exact hseen
  | finished => exact hseen

/-- **What is lost, stays lost.** -/
theorem Effect.lost_of_lost (heff : Effect β s i s') (honce : ∀ account, s.CreditedOnce account [])
    (h : s.Lost txHash) : s'.Lost txHash := by
  have hat : s.TxAt txHash .away := ⟨h.nowhere, h.uncredited⟩
  obtain ⟨new, stage', -, -, hat', haway⟩ := heff.follows honce hat
  obtain rfl := haway rfl h.seen
  exact ⟨heff.isTxSeen h.seen h.nowhere, hat'.1, hat'.2⟩

end Lost

/-! ### Runs -/

section Runs

variable [Inhabited AccountId] {s s₀ t : State AccountId} {config : GenesisConfig AccountId}

/-- **The life of a transaction.** In every state that is reached from genesis, the events that say
something of a transaction are a run of its small machine, and the stage the run ends in is the one
the storage has it in: if it waits, it waits once, for the account and with the amount it was held
with, if it was credited, that was once, it is seen and waits no longer, and otherwise it waits
nowhere and is not seen, unless it is lost. -/
theorem tx_life (hgenesis : config.build β = some s₀) (hreach : Reachable (next β) s₀ s)
    (txHash : TxHash) : ∃ stage,
      run TxStage.next (s.events.filterMap (Event.ofTx txHash)) .away = some stage ∧
      s.Stands txHash stage := by
  obtain ⟨hevents, hbridge⟩ := GenesisConfig.build_events hgenesis
  have hstart : s₀.TxAt txHash .away := by
    refine ⟨fun who d hd => ?_, ?_⟩
    · rw [State.pendings, hbridge] at hd
      exact absurd hd List.not_mem_nil
    · rw [State.creditedTxs, hevents]
      exact List.not_mem_nil
  obtain ⟨honce, stage, hrun, hat⟩ := hreach.invariant
    (I := fun s => (∀ account, s.CreditedOnce account []) ∧ ∃ stage,
      run TxStage.next (s.events.filterMap (Event.ofTx txHash)) .away = some stage ∧
        s.TxAt txHash stage)
    ⟨creditedOnce_of_reachable hgenesis .refl, .away, by rw [hevents]; rfl, hstart⟩ (by
      rintro t i t' ⟨honce, stage, hrun, hat⟩ - hnext
      have heff := next_effect hnext
      obtain ⟨new, stage', hevents, hrun', hat', -⟩ := heff.follows honce hat
      refine ⟨heff.creditedOnce honce, stage', ?_, hat'⟩
      rw [hevents, List.filterMap_append]
      exact run_append hrun hrun')
  exact ⟨stage, hrun, hat.stands honce⟩

/-- **What is lost, is lost for good.** A transaction that counts as seen in a reached state, but
was not credited and does not wait, is so in every later state, whatever is called and by whomever:
nobody can report it again, release it or forget it. -/
theorem lost_forever (hgenesis : config.build β = some s₀) (hreach : Reachable (next β) s₀ s)
    {txHash : TxHash} (h : s.Lost txHash) (hlater : Reachable (next β) s t) : t.Lost txHash := by
  have hall := hlater.invariant (I := fun t => (∀ account, t.CreditedOnce account []) ∧
    t.Lost txHash) ⟨creditedOnce_of_reachable hgenesis hreach, h⟩ fun _ _ _ hI _ hnext =>
      ⟨(next_effect hnext).creditedOnce hI.1, (next_effect hnext).lost_of_lost hI.1 hI.2⟩
  exact hall.2

end Runs

/-- A transaction is held, forgotten, held again and credited. -/
theorem tx_life_example :
    ∃ s, run (next .release) [.bridge (.signed 2) (.deposit 5 30 1),
        .bridge (.signed 2) (.markBlack 5), .bridge (.signed 2) (.deposit 6 40 1),
        .bridge (.signed 2) (.markWhite 6)] exampleState = some s ∧
      run TxStage.next (s.events.filterMap (Event.ofTx 1)) .away = some (.credited 6 40) ∧
      s.Stands 1 (.credited 6 40) := by
  obtain ⟨s, hrun, hlife⟩ := exists_of_any
    (p := fun s : State ℕ =>
      run TxStage.next (s.events.filterMap (Event.ofTx 1)) .away = some (.credited 6 40))
    (o := run (next .release) [.bridge (.signed 2) (.deposit 5 30 1),
        .bridge (.signed 2) (.markBlack 5), .bridge (.signed 2) (.deposit 6 40 1),
        .bridge (.signed 2) (.markWhite 6)] exampleState) (by decide +kernel)
  obtain ⟨stage, hstage, hat⟩ := tx_life exampleConfig_build (reachable_of_run hrun) 1
  obtain rfl := Option.some.inj (hlife.symm.trans hstage)
  exact ⟨s, hrun, hlife, hat⟩

/-- There is no room for the amount when the deposit comes in. -/
theorem lost_forever_example :
    ∃ s, run (next .release) [.bridge (.signed 2) (.markWhite 5),
        .bridge (.signed 2) (.deposit 5 30 1), .bridge (.signed 2) (.deposit 5 (2 ^ 128 - 1) 2)]
        exampleState = some s ∧
      s.Lost 2 ∧ ∀ t, Reachable (next .release) s t → t.Lost 2 := by
  obtain ⟨s, hrun, hseen, hzero, huncredited⟩ := exists_of_any
    (p := fun s : State ℕ => s.bridge.isTxSeen 2 = true ∧ s.pendingCount 2 = 0 ∧
      2 ∉ s.creditedTxs)
    (o := run (next .release) [.bridge (.signed 2) (.markWhite 5),
        .bridge (.signed 2) (.deposit 5 30 1), .bridge (.signed 2) (.deposit 5 (2 ^ 128 - 1) 2)]
        exampleState) (by decide +kernel)
  have hlost : s.Lost 2 := ⟨hseen, fun _ _ hd => ne_of_pendingCount hzero hd, huncredited⟩
  exact ⟨s, hrun, hlost, fun t hlater =>
    lost_forever exampleConfig_build (reachable_of_run hrun) hlost hlater⟩

end Bridge

end MoneyPool
