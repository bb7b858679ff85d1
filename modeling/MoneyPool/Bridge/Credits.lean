import MoneyPool.Bridge.Effect

/-!
# A transaction is credited once

Three records keep a transaction from being credited twice: the history of what was seen, the
deposits that wait, and the marks. Marking an account black takes transactions out of the
history again. That is harmless because those that wait have not been credited, and wait only
once (`MoneyPool.Bridge.State.CreditedOnce`).

While an account is being marked its deposits are in no storage, and the invariant is stated
for a state and the deposits in hand.
-/

namespace MoneyPool

namespace Bridge

open Pallet Pallet.Exec

variable {AccountId : Type} {β : Build}

/-! ### What was credited -/

/-- The transactions that some events credit. -/
def creditedBy (events : List (Event AccountId)) : List TxHash :=
  events.filterMap fun
    | .deposit _ _ txHash => some txHash
    | _ => none

/-- How much some events credit. -/
def creditSum (events : List (Event AccountId)) : ℕ :=
  (events.map fun
    | .deposit _ amount _ => amount.toNat
    | _ => 0).sum

/-- The transactions that have been credited. -/
def State.creditedTxs (s : State AccountId) : List TxHash := creditedBy s.events

theorem creditedBy_append (events events' : List (Event AccountId)) :
    creditedBy (events ++ events') = creditedBy events ++ creditedBy events' :=
  List.filterMap_append

theorem creditSum_append (events events' : List (Event AccountId)) :
    creditSum (events ++ events') = creditSum events + creditSum events' := by
  rw [creditSum, List.map_append, List.sum_append]
  rfl

/-! ### What waits -/

/-- How often a transaction occurs in a list of deposits. -/
def txCount (txHash : TxHash) (deposits : List (Deposit AccountId)) : ℕ :=
  (deposits.map Deposit.txHash).count (some txHash)

/-- How often a transaction occurs among all deposits that wait. -/
def State.pendingCount (s : State AccountId) (txHash : TxHash) : ℕ :=
  s.bridge.pendingDepositList.total fun _ deposits => txCount txHash deposits

/-- The transactions of all deposits that wait. -/
def State.pendingTxs (s : State AccountId) : List (Option TxHash) :=
  s.bridge.pendingDepositList.entries.flatMap fun e => e.2.map Deposit.txHash

section Counts

variable {txHash : TxHash} {p : Deposit AccountId} {ps : List (Deposit AccountId)}

theorem count_pendingTxs (s : State AccountId) (txHash : TxHash) :
    s.pendingTxs.count (some txHash) = s.pendingCount txHash := by
  rw [State.pendingTxs, List.count_flatMap]
  rfl

theorem txCount_append (deposits deposits' : List (Deposit AccountId)) :
    txCount txHash (deposits ++ deposits') =
      txCount txHash deposits + txCount txHash deposits' := by
  rw [txCount, List.map_append, List.count_append]
  rfl

theorem txCount_cons_self (h : p.txHash = some txHash) :
    txCount txHash (p :: ps) = txCount txHash ps + 1 := by
  rw [txCount, List.map_cons, h, List.count_cons_self]
  rfl

theorem txCount_le_cons (p : Deposit AccountId) (ps : List (Deposit AccountId))
    (txHash : TxHash) : txCount txHash ps ≤ txCount txHash (p :: ps) := by
  rw [txCount, txCount, List.map_cons]
  exact List.count_le_count_cons

theorem txCount_pos (h : p.txHash = some txHash) (hmem : p ∈ ps) : 0 < txCount txHash ps :=
  List.count_pos_iff.mpr (h ▸ List.mem_map_of_mem (f := Deposit.txHash) hmem)

end Counts

variable [DecidableEq AccountId]

/-- **A deposit waits** for the mark of an account: its transaction is recorded and seen, and
not credited. -/
structure State.Waits (s : State AccountId) (account : AccountId) (d : Deposit AccountId)
    (txHash : TxHash) : Prop where
  recorded : d.txHash = some txHash
  account : d.accountId = account
  seen : s.bridge.isTxSeen txHash = true
  uncredited : txHash ∉ s.creditedTxs

/-- **Every transaction is credited once**: none was credited twice, none waits twice, what
waits was not credited, and what was credited stays seen. The deposits in hand belong to the
given account. -/
structure State.CreditedOnce (s : State AccountId) (account : AccountId)
    (inHand : List (Deposit AccountId)) : Prop where
  once : s.creditedTxs.Nodup
  waitsOnce : ∀ txHash, s.pendingCount txHash + txCount txHash inHand ≤ 1
  stored : ∀ who, ∀ d ∈ s.bridge.pendingDepositList.get who, ∃ txHash, s.Waits who d txHash
  hand : ∀ d ∈ inHand, ∃ txHash, s.Waits account d txHash
  seen : ∀ txHash ∈ s.creditedTxs, s.bridge.isTxSeen txHash = true

section CreditedOnce

variable {s t : State AccountId} {account who : AccountId} {amount : Balance} {txHash : TxHash}
  {p d : Deposit AccountId} {ps : List (Deposit AccountId)}

omit [DecidableEq AccountId] in
theorem State.Waits.mono (h : s.Waits who d txHash)
    (hseen : s.bridge.isTxSeen txHash = true → t.bridge.isTxSeen txHash = true)
    (hcred : txHash ∉ t.creditedTxs) : t.Waits who d txHash :=
  ⟨h.recorded, h.account, hseen h.seen, hcred⟩

omit [DecidableEq AccountId] in
theorem isTxSeen_seen {tx : TxHash} :
    (s.seen account amount txHash).bridge.isTxSeen tx = true ↔
      tx = txHash ∨ s.bridge.isTxSeen tx = true :=
  StorageMap.containsKey_insert

omit [DecidableEq AccountId] in
theorem isTxSeen_unseen {tx : TxHash} :
    (s.unseen txHash).bridge.isTxSeen tx = true ↔
      tx ≠ txHash ∧ s.bridge.isTxSeen tx = true :=
  StorageMap.containsKey_remove

theorem creditedTxs_credited :
    (s.credited account amount txHash).creditedTxs = s.creditedTxs ++ [txHash] :=
  creditedBy_append ..

/-- What waits, counts. -/
theorem ne_of_pendingCount (h : s.pendingCount txHash = 0)
    (hmem : d ∈ s.bridge.pendingDepositList.get who) : d.txHash ≠ some txHash := by
  intro htx
  have hpos := txCount_pos htx hmem
  have hle := StorageMap.le_total_get (f := fun _ deposits => txCount txHash deposits)
    (fun _ => rfl) s.bridge.pendingDepositList who
  have hzero : s.bridge.pendingDepositList.total (fun _ deposits => txCount txHash deposits) = 0 :=
    h
  omega

namespace State.CreditedOnce

/-- Only the history of transactions, what waits and what was credited matter. -/
theorem of_same (h : s.CreditedOnce account ps)
    (hhistory : t.bridge.depositHistory = s.bridge.depositHistory)
    (hpending : t.bridge.pendingDepositList = s.bridge.pendingDepositList)
    (hcredited : t.creditedTxs = s.creditedTxs) : t.CreditedOnce account ps := by
  have hseen : ∀ tx, t.bridge.isTxSeen tx = s.bridge.isTxSeen tx := fun tx => by
    rw [Store.isTxSeen, hhistory, Store.isTxSeen]
  have hwaits : ∀ {who d tx}, s.Waits who d tx → t.Waits who d tx := fun hw =>
    hw.mono (fun hs => (hseen _).trans hs) (hcredited ▸ hw.uncredited)
  refine ⟨hcredited ▸ h.once, fun tx => ?_, fun who d hd => ?_, fun d hd => ?_, fun tx htx => ?_⟩
  · rw [State.pendingCount, hpending]
    exact h.waitsOnce tx
  · rw [hpending] at hd
    exact (h.stored who d hd).imp fun _ hw => hwaits hw
  · exact (h.hand d hd).imp fun _ hw => hwaits hw
  · rw [hseen]
    exact h.seen tx (hcredited ▸ htx)

/-- With nothing in hand it does not matter whose deposits these are. -/
theorem of_nil (h : s.CreditedOnce account []) (who : AccountId) : s.CreditedOnce who [] :=
  ⟨h.once, h.waitsOnce, h.stored, (fun _ hd => nomatch hd), h.seen⟩

/-- The first deposit in hand is put aside. -/
theorem tail (h : s.CreditedOnce account (p :: ps)) : s.CreditedOnce account ps := by
  refine ⟨h.once, fun tx => ?_, h.stored, fun d hd => h.hand d (List.mem_cons_of_mem _ hd), h.seen⟩
  exact (Nat.add_le_add_left (txCount_le_cons p ps tx) _).trans (h.waitsOnce tx)

/-- No other deposit has the transaction of the first one in hand. -/
theorem head (h : s.CreditedOnce account (p :: ps)) (htx : p.txHash = some txHash) :
    s.Waits account p txHash ∧ s.pendingCount txHash + txCount txHash ps = 0 := by
  obtain ⟨tx, hw⟩ := h.hand p (List.mem_cons_self ..)
  have heq : tx = txHash := Option.some.inj (hw.recorded.symm.trans htx)
  have hle := h.waitsOnce txHash
  rw [txCount_cons_self htx] at hle
  exact ⟨heq ▸ hw, by omega⟩

/-- A transaction may count as seen at any time. -/
theorem seen' (h : s.CreditedOnce account ps) :
    (s.seen who amount txHash).CreditedOnce account ps :=
  ⟨h.once, h.waitsOnce,
    fun who d hd => (h.stored who d hd).imp fun _ hw =>
      hw.mono (fun hs => isTxSeen_seen.mpr (Or.inr hs)) hw.uncredited,
    fun d hd => (h.hand d hd).imp fun _ hw =>
      hw.mono (fun hs => isTxSeen_seen.mpr (Or.inr hs)) hw.uncredited,
    fun tx htx => isTxSeen_seen.mpr (Or.inr (h.seen tx htx))⟩

/-- **A transaction may be credited** that was not, if it does not wait any more. -/
theorem credited (h : s.CreditedOnce account ps) (hnew : txHash ∉ s.creditedTxs)
    (hfree : s.pendingCount txHash + txCount txHash ps = 0) :
    (s.credited who amount txHash).CreditedOnce account ps := by
  have hwaits : ∀ {who' d tx}, d.txHash ≠ some txHash → s.Waits who' d tx →
      (s.credited who amount txHash).Waits who' d tx := fun hne hw =>
    hw.mono (fun hs => isTxSeen_seen.mpr (Or.inr hs)) fun hmem => by
      rw [creditedTxs_credited, List.mem_append, List.mem_singleton] at hmem
      rcases hmem with hold | rfl
      · exact hw.uncredited hold
      · exact hne hw.recorded
  refine ⟨?_, h.waitsOnce, fun who' d hd => ?_, fun d hd => ?_, fun tx htx => ?_⟩
  · rw [creditedTxs_credited]
    exact h.once.append (List.nodup_singleton _) (List.disjoint_singleton.mpr hnew)
  · exact (h.stored who' d hd).imp fun _ hw =>
      hwaits (ne_of_pendingCount (s := s) (by omega) hd) hw
  · refine (h.hand d hd).imp fun _ hw => hwaits (fun htx => ?_) hw
    have hpos := txCount_pos htx hd
    omega
  · rw [creditedTxs_credited, List.mem_append, List.mem_singleton] at htx
    exact isTxSeen_seen.mpr (htx.symm.imp_right (h.seen tx))

/-- **A transaction may be forgotten** that was not credited, if it does not wait any more. -/
theorem unseen (h : s.CreditedOnce account ps) (hnew : txHash ∉ s.creditedTxs)
    (hfree : s.pendingCount txHash + txCount txHash ps = 0) :
    (s.unseen txHash).CreditedOnce account ps := by
  have hwaits : ∀ {who' d tx}, d.txHash ≠ some txHash → s.Waits who' d tx →
      (s.unseen txHash).Waits who' d tx := fun hne hw =>
    hw.mono (fun hs => isTxSeen_unseen.mpr ⟨fun heq => hne (heq ▸ hw.recorded), hs⟩)
      hw.uncredited
  refine ⟨h.once, h.waitsOnce, fun who' d hd => ?_, fun d hd => ?_, fun tx htx => ?_⟩
  · exact (h.stored who' d hd).imp fun _ hw =>
      hwaits (ne_of_pendingCount (s := s) (by omega) hd) hw
  · refine (h.hand d hd).imp fun _ hw => hwaits (fun htx => ?_) hw
    have hpos := txCount_pos htx hd
    omega
  · exact isTxSeen_unseen.mpr ⟨fun heq => hnew (heq ▸ htx), h.seen tx htx⟩

/-- The deposits of an account are taken in hand. -/
theorem taken (h : s.CreditedOnce account []) :
    (s.taken account).CreditedOnce account (s.bridge.pendingDepositList.get account) := by
  refine ⟨h.once, fun tx => ?_, fun who d hd => ?_, fun d hd => ?_, h.seen⟩
  · have htotal := StorageMap.total_remove_get (f := fun _ deposits => txCount tx deposits)
      (fun _ => rfl) s.bridge.pendingDepositList account
    exact htotal.le.trans (h.waitsOnce tx)
  · change d ∈ (s.bridge.pendingDepositList.remove account).get who at hd
    rw [StorageMap.get_remove] at hd
    split at hd
    · cases hd
    · exact (h.stored who d hd).imp fun _ hw => hw.mono id hw.uncredited
  · exact (h.stored account d hd).imp fun _ hw => hw.mono id hw.uncredited

/-- The deposits in hand are put back. -/
theorem restored (h : s.CreditedOnce account ps) (who : AccountId) :
    (s.restored account ps).CreditedOnce who [] := by
  refine ⟨h.once, fun tx => ?_, fun who' d hd => ?_, (fun _ hd => nomatch hd), h.seen⟩
  · have htotal := StorageMap.total_insert_get (f := fun _ deposits => txCount tx deposits)
      (fun _ => rfl) s.bridge.pendingDepositList account ps
    have hle := h.waitsOnce tx
    change (s.bridge.pendingDepositList.insert account ps).total _ + 0 ≤ 1
    change s.bridge.pendingDepositList.total _ + _ ≤ 1 at hle
    omega
  · change d ∈ (s.bridge.pendingDepositList.insert account ps).get who' at hd
    rw [StorageMap.get_insert] at hd
    split at hd
    · rename_i heq
      subst heq
      exact (h.hand d hd).imp fun _ hw => hw.mono id hw.uncredited
    · exact (h.stored who' d hd).imp fun _ hw => hw.mono id hw.uncredited

/-- A transaction that was not seen, does not wait and was not credited. -/
theorem fresh (h : s.CreditedOnce account []) (hfresh : s.bridge.isTxSeen txHash = false) :
    txHash ∉ s.creditedTxs ∧ s.pendingCount txHash = 0 := by
  have hno : ¬s.bridge.isTxSeen txHash = true := by simp [hfresh]
  refine ⟨fun hmem => hno (h.seen txHash hmem), ?_⟩
  by_contra hne
  rw [← count_pendingTxs] at hne
  obtain ⟨e, he, hmem⟩ := List.mem_flatMap.mp (List.count_pos_iff.mp (Nat.pos_of_ne_zero hne))
  obtain ⟨d, hd, htx⟩ := List.mem_map.mp hmem
  have hget : s.bridge.pendingDepositList.get e.1 = e.2 :=
    StorageMap.get_of_get? (StorageMap.get?_eq_some_iff.mpr he)
  obtain ⟨tx, hw⟩ := h.stored e.1 d (hget ▸ hd)
  have heq : tx = txHash := Option.some.inj (hw.recorded.symm.trans htx)
  exact hno (heq ▸ hw.seen)

/-- A new deposit is held. -/
theorem held (h : s.CreditedOnce account []) (hfresh : s.bridge.isTxSeen txHash = false) :
    (s.held who amount txHash).CreditedOnce account [] := by
  obtain ⟨hnew, hzero⟩ := h.fresh hfresh
  have hcredited : (s.held who amount txHash).creditedTxs = s.creditedTxs := by
    rw [creditedTxs, State.held, creditedBy_append]
    exact List.append_nil _
  have hwaits : ∀ {who' d tx}, s.Waits who' d tx → (s.held who amount txHash).Waits who' d tx :=
    fun hw => hw.mono (fun hs => isTxSeen_seen.mpr (Or.inr hs)) (hcredited ▸ hw.uncredited)
  refine ⟨hcredited ▸ h.once, fun tx => ?_, fun who' d hd => ?_, (fun _ hd => nomatch hd),
    fun tx htx => ?_⟩
  · have htotal := StorageMap.total_insert_get (f := fun _ deposits => txCount tx deposits)
      (fun _ => rfl) s.bridge.pendingDepositList who
      (s.bridge.pendingDepositList.get who ++ [State.waiting who amount txHash])
    have hle := h.waitsOnce tx
    change (s.bridge.pendingDepositList.insert who
      (s.bridge.pendingDepositList.get who ++ [State.waiting who amount txHash])).total
        (fun _ deposits => txCount tx deposits) + 0 ≤ 1
    change s.bridge.pendingDepositList.total _ + 0 ≤ 1 at hle
    simp only [txCount_append] at htotal
    -- a transaction that has not been seen was waiting nowhere
    rcases eq_or_ne tx txHash with rfl | hne
    · have hone : txCount tx [State.waiting who amount tx] = 1 := txCount_cons_self rfl
      change s.bridge.pendingDepositList.total _ = 0 at hzero
      omega
    · have hnone : txCount tx [State.waiting who amount txHash] = 0 := by
        rw [txCount, List.count_eq_zero]
        intro hmem
        exact hne (Option.some.inj (List.mem_singleton.mp hmem))
      omega
  · change d ∈ (s.bridge.pendingDepositList.mutate who _).get who' at hd
    rw [StorageMap.get_mutate] at hd
    split at hd
    · rename_i heq
      rcases List.mem_append.mp hd with hold | hlast
      · exact (h.stored who' d (heq ▸ hold)).imp fun _ hw => hwaits hw
      · rw [List.mem_singleton.mp hlast]
        refine ⟨txHash, rfl, heq.symm, isTxSeen_seen.mpr (Or.inl rfl), ?_⟩
        rw [hcredited]
        exact hnew
    · exact (h.stored who' d hd).imp fun _ hw => hwaits hw
  · exact isTxSeen_seen.mpr (Or.inr (h.seen tx (hcredited ▸ htx)))

end State.CreditedOnce

/-- Crediting what is in hand. -/
theorem State.Clears.creditedOnce {rest : List (Deposit AccountId)} (hclears : s.Clears ps t)
    (h : s.CreditedOnce account (ps ++ rest)) : t.CreditedOnce account rest := by
  induction hclears with
  | nil => exact h
  | cons htx _ _ ih =>
    obtain ⟨hwaits, hfree⟩ := h.head htx
    exact ih (h.tail.credited hwaits.uncredited hfree)

/-- Forgetting what is in hand. -/
theorem State.CreditedOnce.forget {txHashes : List TxHash} (h : s.CreditedOnce account ps)
    (hmap : ps.map Deposit.txHash = txHashes.map some) :
    (txHashes.foldl State.unseen s).CreditedOnce account [] := by
  induction txHashes generalizing s ps with
  | nil =>
    obtain rfl := List.map_eq_nil_iff.mp hmap
    exact h
  | cons txHash txHashes ih =>
    obtain ⟨p, ps, rfl, htx, hrest⟩ := List.map_eq_cons_iff.mp hmap
    obtain ⟨hwaits, hfree⟩ := h.head htx
    exact ih (h.tail.unseen hwaits.uncredited hfree) hrest

end CreditedOnce

/-! ### Steps -/

section Steps

variable [Inhabited AccountId] {s s' t : State AccountId} {i : Step AccountId}
  {account : AccountId}

/-- **Every transaction stays credited once.** -/
theorem Effect.creditedOnce (heff : Effect β s i s') (h : ∀ account, s.CreditedOnce account []) :
    ∀ account, s'.CreditedOnce account [] := by
  intro who
  cases heff with
  | unchanged => exact h who
  | switched => exact (h who).of_same rfl rfl rfl
  | ledgerCall => exact (h who).of_same rfl rfl rfl
  | credited author account amount txHash hfresh =>
    obtain ⟨hnew, hzero⟩ := (h who).fresh hfresh
    exact (h who).credited hnew hzero
  | lost => exact (h who).seen'
  | held author account amount txHash hfresh => exact (h who).held hfresh
  | blackened author account txHashes hrecorded =>
    have hforgot := ((h account).taken.forget hrecorded).of_nil who
    refine hforgot.of_same rfl rfl ?_
    exact (creditedBy_append _ _).trans (List.append_nil _)
  | whitened author account hclears =>
    have htaken := (h account).taken
    rw [← List.append_nil (s.bridge.pendingDepositList.get account)] at htaken
    refine ((hclears.creditedOnce htaken).of_nil who).of_same rfl rfl ?_
    exact (creditedBy_append _ _).trans (List.append_nil _)
  | stuck author account hpendings hclears hrecorded =>
    have hleft := hclears.creditedOnce (hpendings ▸ (h account).taken)
    exact hleft.seen'.restored who
  | withdrawn =>
    exact (h who).of_same rfl rfl ((creditedBy_append _ _).trans (List.append_nil _))
  | refunded =>
    exact (h who).of_same rfl rfl ((creditedBy_append _ _).trans (List.append_nil _))
  | finished =>
    exact (h who).of_same rfl rfl ((creditedBy_append _ _).trans (List.append_nil _))

/-! ### The log -/

/-- What is issued of the asset of the bridge. -/
def State.issued (s : State AccountId) : Balance := s.assets.totalIssuance.get s.bridge.assetId

/-- **What a step logs**, and that exactly what it credits is issued. -/
structure State.Logs (s t : State AccountId) (new : List (Event AccountId)) : Prop where
  events : t.events = s.events ++ new
  assetId : t.bridge.assetId = s.bridge.assetId
  issued : t.issued.toNat = s.issued.toNat + creditSum new

omit [Inhabited AccountId] [DecidableEq AccountId] in
theorem State.Logs.trans [DecidableEq AccountId] {u : State AccountId}
    {new new' : List (Event AccountId)} (h : s.Logs t new) (h' : t.Logs u new') :
    s.Logs u (new ++ new') where
  events := by rw [h'.events, h.events, List.append_assoc]
  assetId := h'.assetId.trans h.assetId
  issued := by rw [h'.issued, h.issued, creditSum_append, Nat.add_assoc]

omit [Inhabited AccountId] in
/-- A credit is logged and issued. -/
theorem State.CanCredit.logs {amount : Balance} (hcan : s.CanCredit account amount)
    (txHash : TxHash) :
    s.Logs (s.credited account amount txHash) [.deposit account amount txHash] where
  events := rfl
  assetId := rfl
  issued := by
    have hget : (s.credited account amount txHash).issued = s.issued + amount := by
      change (s.assets.totalIssuance.insert s.bridge.assetId
        (s.assets.totalIssuance.get s.bridge.assetId + amount)).get s.bridge.assetId = _
      rw [StorageMap.get_insert, if_pos rfl]
      rfl
    have hsum : creditSum [Event.deposit account amount txHash] = amount.toNat := Nat.add_zero _
    rw [hget, hsum]
    exact BitVec.toNat_add_of_lt hcan.total

omit [Inhabited AccountId] in
/-- The credits of some deposits are logged and issued, and they are all of their account. -/
theorem State.Clears.logs {ps : List (Deposit AccountId)} (hclears : s.Clears ps t)
    (hown : ∀ d ∈ ps, d.accountId = account) :
    ∃ new, s.Logs t new ∧
      ∀ who amount txHash, .deposit who amount txHash ∈ new → who = account := by
  induction hclears with
  | nil s => exact ⟨[], ⟨(List.append_nil _).symm, rfl, rfl⟩, fun _ _ _ hmem => nomatch hmem⟩
  | @cons s t p ps txHash _ hcan _ ih =>
    obtain ⟨hfirst, hrest⟩ := List.forall_mem_cons.mp hown
    obtain ⟨new, hlogs, hall⟩ := ih hrest
    refine ⟨_, (hcan.logs txHash).trans hlogs, fun who amount tx hmem => ?_⟩
    rcases List.mem_append.mp hmem with hone | hmore
    · cases List.mem_singleton.mp hone
      exact hfirst
    · exact hall who amount tx hmore

/-- **What a call of the bridge logs.** Only a white account is credited a large deposit, but
for a call that marks it white. -/
theorem Effect.logs {origin : Origin AccountId} {call : Call AccountId}
    (heff : Effect β s (.bridge origin call) s') (h : ∀ account, s.CreditedOnce account []) :
    ∃ new, s.Logs s' new ∧ ∀ account amount txHash, .deposit account amount txHash ∈ new →
      s.bridge.threshold ≤ amount → s.bridge.checkList account = some .white ∨
        call = .markWhite account := by
  have hquiet : s.Logs s [] := ⟨(List.append_nil _).symm, rfl, rfl⟩
  cases heff with
  | unchanged => exact ⟨[], hquiet, fun _ _ _ hmem => nomatch hmem⟩
  | switched => exact ⟨[], ⟨(List.append_nil _).symm, rfl, rfl⟩, fun _ _ _ hmem => nomatch hmem⟩
  | credited author account amount txHash _ hwhite hcan =>
    refine ⟨_, hcan.logs txHash, fun who amount' tx hmem hle => Or.inl ?_⟩
    cases List.mem_singleton.mp hmem
    exact hwhite hle
  | lost => exact ⟨[], ⟨(List.append_nil _).symm, rfl, rfl⟩, fun _ _ _ hmem => nomatch hmem⟩
  | held =>
    refine ⟨_, ⟨rfl, rfl, rfl⟩, fun _ _ _ hmem => ?_⟩
    cases List.mem_singleton.mp hmem
  | blackened author account txHashes =>
    obtain ⟨m, hm⟩ := foldl_unseen txHashes (s.taken account)
    rw [hm]
    refine ⟨_, ⟨rfl, rfl, rfl⟩, fun _ _ _ hmem => ?_⟩
    cases List.mem_singleton.mp hmem
  | whitened author account hclears =>
    -- what is credited here had been stored for the account that is marked
    have hown : ∀ d ∈ s.bridge.pendingDepositList.get account, d.accountId = account := by
      intro d hd
      obtain ⟨_, hw⟩ := (h account).stored account d hd
      exact hw.account
    obtain ⟨new, hlogs, hall⟩ := hclears.logs hown
    refine ⟨new ++ [.accountMarked account .white],
      .trans ⟨hlogs.events, hlogs.assetId, hlogs.issued⟩ ⟨rfl, rfl, rfl⟩, fun who _ _ hmem _ => ?_⟩
    rcases List.mem_append.mp hmem with hcredit | hmark
    · exact Or.inr (congrArg Call.markWhite (hall who _ _ hcredit).symm)
    · cases List.mem_singleton.mp hmark
  | @stuck author account before _ _ _ _ hpendings hclears hrecorded =>
    have hown : ∀ d ∈ before, d.accountId = account := by
      intro d hd
      obtain ⟨_, hw⟩ := (h account).stored account d
        (hpendings ▸ List.mem_append_left _ hd)
      exact hw.account
    obtain ⟨new, hlogs, hall⟩ := hclears.logs hown
    exact ⟨new, ⟨hlogs.events, hlogs.assetId, hlogs.issued⟩, fun who _ _ hmem _ =>
      Or.inr (congrArg Call.markWhite (hall who _ _ hmem).symm)⟩
  | withdrawn who amount =>
    refine ⟨_, ⟨rfl, rfl, ?_⟩, fun _ _ _ hmem => ?_⟩
    · change ((s.assets.moved _ _ _ _).totalIssuance.get _).toNat = _
      rw [GenericAsset.Store.moved_totalIssuance]
      rfl
    · cases List.mem_singleton.mp hmem
  | refunded author who amount =>
    refine ⟨_, ⟨rfl, rfl, ?_⟩, fun _ _ _ hmem => ?_⟩
    · change ((s.assets.moved _ _ _ _).totalIssuance.get _).toNat = _
      rw [GenericAsset.Store.moved_totalIssuance]
      rfl
    · cases List.mem_singleton.mp hmem
  | finished =>
    refine ⟨_, ⟨rfl, rfl, rfl⟩, fun _ _ _ hmem => ?_⟩
    cases List.mem_singleton.mp hmem

/-- A call of the ledger logs nothing. -/
theorem Effect.ledger_events {origin : Origin AccountId} {call : GenericAsset.Call AccountId}
    (heff : Effect β s (.ledger origin call) s') : s'.events = s.events := by
  cases heff with
  | unchanged => rfl
  | ledgerCall => rfl

/-- What was credited, stays credited. -/
theorem Effect.mem_creditedTxs {txHash : TxHash} (heff : Effect β s i s')
    (h : ∀ account, s.CreditedOnce account []) (hmem : txHash ∈ s.creditedTxs) :
    txHash ∈ s'.creditedTxs := by
  cases i with
  | bridge origin call =>
    obtain ⟨new, hlogs, -⟩ := heff.logs h
    rw [State.creditedTxs, hlogs.events, creditedBy_append]
    exact List.mem_append_left _ hmem
  | ledger origin call =>
    rw [State.creditedTxs, heff.ledger_events]
    exact hmem

/-! ### No unwrap panics -/

omit [Inhabited AccountId] in
/-- Crediting deposits whose transactions are recorded does not panic. -/
theorem creditPendings_completes {ps : List (Deposit AccountId)}
    (h : ∀ d ∈ ps, ∃ txHash, d.txHash = some txHash) :
    (creditPendings account ps : Prog β AccountId Unit).Completes s := by
  induction ps generalizing s with
  | nil => trivial
  | cons p ps ih =>
    obtain ⟨⟨txHash, htx⟩, hrest⟩ := List.forall_mem_cons.mp h
    simp only [Completes, creditPendings, wp_bind, wp_unwrap, wp_orElse, wp_modify, wp_fail]
    have hsome : ¬p.txHash = none := by simp [htx]
    refine ⟨fun _ _ => ⟨fun tx _ => ?_, hsome⟩, hsome⟩
    rcases simpleDeposit_cases (β := β) s p.accountId p.amount tx with ⟨-, hx⟩ | ⟨-, e, hx⟩
    · exact (wp_of_ok hx).mpr (ih hrest)
    · exact (wp_of_err hx).mpr trivial

omit [Inhabited AccountId] in
/-- **Marking an account** does not panic. -/
theorem mark_completes (h : s.CreditedOnce account []) (origin : Origin AccountId) :
    (markWhite origin account : Prog β AccountId Unit).Completes s ∧
      (markBlack origin account : Prog β AccountId Unit).Completes s := by
  have hrecorded : ∀ d ∈ s.bridge.pendingDepositList.get account, ∃ txHash,
      d.txHash = some txHash := by
    intro d hd
    obtain ⟨txHash, hw⟩ := h.stored account d hd
    exact ⟨txHash, hw.recorded⟩
  simp only [Completes, markWhite, markBlack, takePendings, markWithEvent, mark, depositEvent,
    wp_bind, wp_ensureSigned, wp_gets, wp_ensure, wp_modify, wp_pure]
  refine ⟨⟨fun _ _ => ⟨fun _ => ?_, fun _ => trivial⟩, fun _ => trivial⟩,
    fun _ _ => ⟨fun _ => ?_, fun _ => trivial⟩, fun _ => trivial⟩
  · exact creditPendings_completes hrecorded
  · refine wp_forEach (fun _ => True) (fun d hd t _ => ?_) trivial
    obtain ⟨txHash, htx⟩ := hrecorded d hd
    simp only [wp_bind, wp_unwrap, wp_modify]
    exact ⟨fun _ _ => trivial, by simp [htx]⟩

end Steps

/-! ### Runs -/

section Runs

variable [Inhabited AccountId] {s s₀ : State AccountId} {config : GenesisConfig AccountId}

/-- **Every transaction is credited once** in every reached state. -/
theorem creditedOnce_of_reachable (hgenesis : config.build β = some s₀)
    (hreach : Reachable (next β) s₀ s) (account : AccountId) : s.CreditedOnce account [] := by
  refine hreach.invariant (I := fun s => ∀ account, s.CreditedOnce account []) (fun account => ?_)
    (fun _ _ _ h _ hnext => (next_effect hnext).creditedOnce h) account
  unfold GenesisConfig.build at hgenesis
  split at hgenesis
  · cases hgenesis
    exact ⟨List.nodup_nil, fun _ => Nat.zero_le 1, fun _ _ hd => (nomatch hd),
      fun _ hd => (nomatch hd), fun _ hmem => (nomatch hmem)⟩
  · cases hgenesis

/-- **A transaction is credited at most once.** In every state that is reached from genesis no
transaction has been credited twice, none waits twice, and what waits belongs to the account it
waits for, is recorded, seen and not credited, so that marking an account does not panic. What
was credited counts as seen from then on. A call of the bridge issues exactly what it logs as
credited, and it credits an amount of the threshold or more only to an account that is white or
that it marks white. -/
theorem credited_at_most_once (hgenesis : config.build β = some s₀)
    (hreach : Reachable (next β) s₀ s) :
    s.creditedTxs.Nodup ∧ s.pendingTxs.Nodup ∧
    (∀ account, ∀ d ∈ s.bridge.pendingDepositList.get account, ∃ txHash,
      s.Waits account d txHash) ∧
    (∀ account origin, (markWhite origin account : Prog β AccountId Unit).Completes s ∧
      (markBlack origin account : Prog β AccountId Unit).Completes s) ∧
    (∀ txHash ∈ s.creditedTxs, ∀ t, Reachable (next β) s t → t.bridge.isTxSeen txHash = true) ∧
    (∀ origin call s', next β (.ledger origin call) s = some s' → s'.events = s.events) ∧
    ∀ origin call s', next β (.bridge origin call) s = some s' → ∃ new, s.Logs s' new ∧
      ∀ account amount txHash, .deposit account amount txHash ∈ new →
        s.bridge.threshold ≤ amount → s.bridge.checkList account = some .white ∨
          call = .markWhite account := by
  have honce := creditedOnce_of_reachable hgenesis hreach
  refine ⟨(honce default).once, ?_, fun account => (honce account).stored account,
    fun account origin => mark_completes (honce account) origin, fun txHash hmem t hreach' => ?_,
    fun _ _ _ hnext => (next_effect hnext).ledger_events,
    fun _ _ _ hnext => (next_effect hnext).logs honce⟩
  · refine List.nodup_iff_count_le_one.mpr fun entry => ?_
    cases entry with
    | some txHash =>
      rw [count_pendingTxs]
      exact (honce default).waitsOnce txHash
    | none =>
      -- all that wait are recorded
      refine (List.count_eq_zero.mpr fun hmem => ?_).le.trans (Nat.zero_le 1)
      obtain ⟨e, he, hd⟩ := List.mem_flatMap.mp hmem
      obtain ⟨d, hd, hnone⟩ := List.mem_map.mp hd
      have hget : s.bridge.pendingDepositList.get e.1 = e.2 :=
        StorageMap.get_of_get? (StorageMap.get?_eq_some_iff.mpr he)
      obtain ⟨txHash, hw⟩ := (honce e.1).stored e.1 d (hget ▸ hd)
      exact nomatch hnone.symm.trans hw.recorded
  · have hall := hreach'.invariant (I := fun t => (∀ account, t.CreditedOnce account []) ∧
      txHash ∈ t.creditedTxs) ⟨honce, hmem⟩ fun _ _ _ h _ hnext =>
        ⟨(next_effect hnext).creditedOnce h.1, (next_effect hnext).mem_creditedTxs h.1 h.2⟩
    exact (hall.1 default).seen txHash hall.2

end Runs

theorem credited_at_most_once_example :
    ∃ s, run (next .release) [.bridge (.signed 2) (.deposit 5 10 1),
        .bridge (.signed 2) (.deposit 5 30 2), .bridge (.signed 2) (.deposit 5 10 1),
        .bridge (.signed 2) (.markWhite 5), .bridge (.signed 2) (.markBlack 5)] exampleState =
        some s ∧
      s.assets.free 1 5 = 40 ∧ s.creditedTxs = [1, 2] ∧
      ∀ t, Reachable (next .release) s t → t.bridge.isTxSeen 2 = true := by
  obtain ⟨s, hrun, hfree, htxs⟩ := exists_of_any
    (p := fun s : State ℕ => s.assets.free 1 5 = 40 ∧ s.creditedTxs = [1, 2])
    (o := run (next .release) [.bridge (.signed 2) (.deposit 5 10 1),
        .bridge (.signed 2) (.deposit 5 30 2), .bridge (.signed 2) (.deposit 5 10 1),
        .bridge (.signed 2) (.markWhite 5), .bridge (.signed 2) (.markBlack 5)] exampleState)
    (by decide +kernel)
  obtain ⟨-, -, -, -, hseen, -⟩ := credited_at_most_once exampleConfig_build (reachable_of_run hrun)
  exact ⟨s, hrun, hfree, htxs, hseen 2 (by simp [htxs])⟩

end Bridge

end MoneyPool
