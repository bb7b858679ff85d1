import MoneyPool.Bridge.Effect

/-!
# The vault covers what was asked for

What an account asks for goes to the vault at once, and a note of it to a list. A refund takes
both back, and finishing a withdrawal takes the note only. So the vault holds at least the sum
of all notes (`MoneyPool.Bridge.State.Backed`), as long as nobody else takes from it, and every
note can be refunded (`MoneyPool.Bridge.pending_refundable`).

The ledger adds to the balance of the vault without a check, and relies on it that all that is
held of an asset has been issued. A genesis storage that hands out more than it notes down
breaks that, and then the balance of the vault may come round.
-/

namespace MoneyPool

open Pallet Pallet.Exec

variable {AccountId : Type} [DecidableEq AccountId] {β : Build}

namespace GenericAsset

/-! ### What is held has been issued -/

/-- **What is held of an asset has been issued.** -/
def Store.Covered (s : Store AccountId) (assetId : AssetId) : Prop :=
  s.held assetId ≤ (s.totalIssuance.get assetId).toNat

namespace Store.Covered

variable {s : Store AccountId} {assetId asset' : AssetId} {who fromAccount toAccount : AccountId}
  {amount : Balance}

omit [DecidableEq AccountId] in
theorem bounded (h : s.Covered assetId) : s.Bounded assetId :=
  lt_of_le_of_lt h (s.totalIssuance.get assetId).isLt

/-- A transfer of this or another asset. -/
theorem moved (h : s.Covered assetId) (hle : amount ≤ s.free asset' fromAccount) :
    (s.moved asset' fromAccount toAccount amount).Covered assetId := by
  rw [Store.Covered, h.bounded.held_moved hle, moved_totalIssuance]
  exact h

/-- A mint. -/
theorem minted (h : s.Covered assetId) (hcan : s.CanMint assetId who toAccount amount) :
    (s.minted assetId toAccount amount).Covered assetId := by
  have hheld : (s.minted assetId toAccount amount).held assetId +
      (s.free assetId toAccount).toNat = s.held assetId +
        (s.free assetId toAccount + amount).toNat := held_setFree ..
  have hissued : (s.minted assetId toAccount amount).totalIssuance.get assetId =
      s.totalIssuance.get assetId + amount := by
    rw [Store.minted, setFree, StorageMap.get_insert, if_pos rfl]
  rw [BitVec.toNat_add_of_lt hcan.balance] at hheld
  rw [Store.Covered, hissued, BitVec.toNat_add_of_lt hcan.total]
  have hle : s.held assetId ≤ (s.totalIssuance.get assetId).toNat := h
  omega

end Store.Covered

/-- What an account has free after a mint is no less than before. -/
theorem free_le_minted {s : Store AccountId} {assetId : AssetId} {who toAccount : AccountId}
    {amount : Balance} (hcan : s.CanMint assetId who toAccount amount) (account : AccountId) :
    (s.free assetId account).toNat ≤
      ((s.minted assetId toAccount amount).free assetId account).toNat := by
  rw [Store.minted, Store.free_setFree]
  split
  · rename_i hto
    rw [hto.2, BitVec.toNat_add_of_lt hcan.balance]
    exact Nat.le_add_right _ _
  · exact le_rfl

end GenericAsset

namespace Bridge

/-! ### Notes -/

section Notes

variable {s : State AccountId} {who : AccountId} {amount : Balance}

/-- The sum of all that was asked for. -/
def askedSum (pendings : StorageMap AccountId (List Balance)) : ℕ :=
  pendings.total fun _ amounts => exactSum amounts

/-- The first of the given amounts is dropped. -/
theorem dropFirstAmount_eq_erase (amount : Balance) (amounts : List Balance) :
    dropFirstAmount amount false amounts = amounts.erase amount := by
  have hkeep : ∀ amounts : List Balance, dropFirstAmount amount true amounts = amounts := by
    intro amounts
    induction amounts with
    | nil => rfl
    | cons amt amts ih => rw [dropFirstAmount, if_pos (Or.inl rfl), ih]
  induction amounts with
  | nil => rfl
  | cons amt amts ih =>
    rw [dropFirstAmount, List.erase_cons]
    rcases eq_or_ne amt amount with rfl | hne
    · rw [if_neg (by simp), if_pos (by simp), hkeep]
    · rw [if_pos (Or.inr hne), if_neg (by simpa using hne), ih]

/-- One amount more is asked for. -/
theorem askedSum_asked :
    askedSum (s.asked who amount) = askedSum s.bridge.pendingWithdraws + amount.toNat := by
  have htotal := StorageMap.total_insert_get (f := fun _ amounts => exactSum amounts)
    (fun _ => rfl) s.bridge.pendingWithdraws who (s.bridge.pendingWithdraws.get who ++ [amount])
  have hone : exactSum [amount] = amount.toNat := Nat.add_zero _
  simp only [exactSum_append, hone] at htotal
  change StorageMap.total _ (s.bridge.pendingWithdraws.insert who _) = StorageMap.total _ _ + _
  omega

/-- There is nothing but the amount in a list that is not longer. -/
theorem erase_eq_nil {amounts : List Balance} (h : amount ∈ amounts)
    (hshort : ¬1 < amounts.length) : amounts.erase amount = [] := by
  rw [← List.length_eq_zero_iff, List.length_erase_of_mem h]
  omega

/-- **What an account has asked for**, after one of the amounts is settled. -/
theorem get_settled (h : amount ∈ s.bridge.pendingWithdraws.get who) (account : AccountId) :
    (s.settled who amount).get account =
      if account = who then (s.bridge.pendingWithdraws.get who).erase amount
      else s.bridge.pendingWithdraws.get account := by
  unfold State.settled
  split
  · rw [StorageMap.get_insert, StorageMap.get_remove, dropFirstAmount_eq_erase]
    split <;> rfl
  · rename_i hshort
    rw [StorageMap.get_remove]
    rw [erase_eq_nil h hshort]
    rfl

/-- One amount less is asked for. -/
theorem askedSum_settled (h : amount ∈ s.bridge.pendingWithdraws.get who) :
    askedSum (s.settled who amount) + amount.toNat = askedSum s.bridge.pendingWithdraws := by
  have hremove := StorageMap.total_remove_get (f := fun _ amounts => exactSum amounts)
    (fun _ => rfl) s.bridge.pendingWithdraws who
  have herase := exactSum_erase h
  change StorageMap.total _ (s.settled who amount) + _ = StorageMap.total _ _
  unfold State.settled
  split
  · have hinsert := StorageMap.total_insert_get (f := fun _ amounts => exactSum amounts)
      (fun _ => rfl) (s.bridge.pendingWithdraws.remove who) who
      (dropFirstAmount amount false (s.bridge.pendingWithdraws.get who))
    have hnil : exactSum ((s.bridge.pendingWithdraws.remove who).get who) = 0 := by
      rw [StorageMap.get_remove, if_pos rfl]
      rfl
    simp only [hnil, dropFirstAmount_eq_erase] at hinsert ⊢
    omega
  · rename_i hshort
    have hnil : exactSum ((s.bridge.pendingWithdraws.get who).erase amount) = 0 := by
      rw [erase_eq_nil h hshort]
      rfl
    omega

/-- **Settling an amount removes it once.** Of what an account has asked for, the first of the given
amounts is gone and all others stay in order, and nothing else is changed. -/
theorem removes_first_amount (h : amount ∈ s.bridge.pendingWithdraws.get who) :
    ∃ t, (removeFromPendingWithdraws who amount : Prog β AccountId Unit) s = .ok () t ∧
      (∃ before after, s.bridge.pendingWithdraws.get who = before ++ amount :: after ∧
        amount ∉ before ∧ t.bridge.pendingWithdraws.get who = before ++ after) ∧
      (∀ account, account ≠ who →
        t.bridge.pendingWithdraws.get account = s.bridge.pendingWithdraws.get account) ∧
      ∃ m, t = s.withBridge fun b => { b with pendingWithdraws := m } := by
  refine ⟨_, eq_ok_of_wp (wp_removeFromPendingWithdraws.mpr rfl), ?_, fun account hne => ?_, _, rfl⟩
  · obtain ⟨before, after, hnot, hsplit, herase⟩ := List.exists_erase_eq h
    refine ⟨before, after, hsplit, hnot, ?_⟩
    rw [← herase]
    exact (get_settled h who).trans (if_pos rfl)
  · exact (get_settled h account).trans (if_neg hne)

/-- One of two equal amounts is settled. -/
theorem removes_first_amount_example :
    ∃ t, (removeFromPendingWithdraws 5 3 : Prog .release ℕ Unit) (exampleState.withBridge fun b =>
        { b with pendingWithdraws := b.pendingWithdraws.insert 5 [4, 3, 3] }) = .ok () t ∧
      ∃ before after : List Balance, [4, 3, 3] = before ++ 3 :: after ∧ 3 ∉ before ∧
        t.bridge.pendingWithdraws.get 5 = before ++ after := by
  have hasked : (3 : Balance) ∈ (exampleState.withBridge fun b =>
      { b with pendingWithdraws :=
          b.pendingWithdraws.insert 5 [4, 3, 3] }).bridge.pendingWithdraws.get 5 := by
    decide +kernel
  obtain ⟨t, hx, hgone, -⟩ := removes_first_amount (β := .release) hasked
  exact ⟨t, hx, hgone⟩

/-- What an account has asked for, is part of the sum. -/
theorem le_askedSum (h : amount ∈ s.bridge.pendingWithdraws.get who) :
    amount.toNat ≤ askedSum s.bridge.pendingWithdraws :=
  (Nat.le_add_left _ _).trans (askedSum_settled h).le

end Notes

/-! ### Backed notes -/

/-- **The vault covers what was asked for**, the vault itself asks for nothing, and what is
held of the asset has been issued. -/
structure State.Backed (s : State AccountId) (vault : AccountId) : Prop where
  account : s.bridge.pendingWithdrawVault = vault
  covered : s.assets.Covered s.bridge.assetId
  backed : askedSum s.bridge.pendingWithdraws ≤ (s.assets.free s.bridge.assetId vault).toNat
  idle : s.bridge.pendingWithdraws.get vault = []

/-- **The steps that others may take**: a call of the bridge or a transfer that the vault has not
signed. -/
def Step.byOthers (vault : AccountId) : Step AccountId → Prop
  | .bridge origin _ => origin ≠ .signed vault
  | .ledger origin (.transfer _ _ _) => origin ≠ .signed vault
  | .ledger _ _ => False

section Backed

variable {s s' t : State AccountId} {vault who account : AccountId} {amount : Balance}
  {i : Step AccountId}

namespace State.Backed

/-- Only the ledger and the notes matter. -/
theorem of_same (h : s.Backed vault) (hassets : t.assets = s.assets)
    (hassetId : t.bridge.assetId = s.bridge.assetId)
    (hvault : t.bridge.pendingWithdrawVault = s.bridge.pendingWithdrawVault)
    (hpendings : t.bridge.pendingWithdraws = s.bridge.pendingWithdraws) : t.Backed vault := by
  refine ⟨hvault.trans h.account, ?_, ?_, ?_⟩
  · rw [hassets, hassetId]
    exact h.covered
  · rw [hassets, hassetId, hpendings]
    exact h.backed
  · rw [hpendings]
    exact h.idle

/-- A credit. -/
theorem credited (h : s.Backed vault) (hcan : s.CanCredit account amount) (txHash : TxHash) :
    (s.credited account amount txHash).Backed vault :=
  ⟨h.account, h.covered.minted hcan, h.backed.trans (GenericAsset.free_le_minted hcan vault),
    h.idle⟩

/-- Credits of deposits that have waited. -/
theorem clears {ps : List (Deposit AccountId)} (h : s.Backed vault) (hclears : s.Clears ps t) :
    t.Backed vault := by
  induction hclears with
  | nil => exact h
  | cons _ hcan _ ih => exact ih (h.credited hcan _)

/-- A transfer of any asset that does not take from the vault. -/
theorem moved {assetId : AssetId} {toAccount : AccountId} (h : s.Backed vault)
    (hle : amount ≤ s.assets.free assetId who) (hwho : who ≠ vault) :
    { s with assets := s.assets.moved assetId who toAccount amount : State AccountId }.Backed
      vault := by
  exact ⟨h.account, h.covered.moved hle,
    h.backed.trans (h.covered.bounded.free_le_moved hle fun _ => Ne.symm hwho), h.idle⟩

/-- A withdrawal. -/
theorem withdrawn (h : s.Backed vault) (hle : amount ≤ s.assets.free s.bridge.assetId who)
    (hwho : who ≠ vault) : (s.withdrawn who amount).Backed vault := by
  refine ⟨h.account, h.covered.moved hle, ?_, ?_⟩
  · change askedSum (s.asked who amount) ≤
      ((s.assets.moved s.bridge.assetId who s.bridge.pendingWithdrawVault amount).free
        s.bridge.assetId vault).toNat
    rw [askedSum_asked, h.account, h.covered.bounded.free_moved_to hle hwho]
    exact Nat.add_le_add_right h.backed _
  · change (s.bridge.pendingWithdraws.insert who _).get vault = []
    rw [StorageMap.get_insert, if_neg (Ne.symm hwho)]
    exact h.idle

/-- Who has asked for something, is not the vault. -/
theorem ne_vault (h : s.Backed vault) (hasked : amount ∈ s.bridge.pendingWithdraws.get who) :
    who ≠ vault := by
  rintro rfl
  rw [h.idle] at hasked
  cases hasked

/-- The vault has what somebody has asked for. -/
theorem le_free (h : s.Backed vault) (hasked : amount ∈ s.bridge.pendingWithdraws.get who) :
    amount ≤ s.assets.free s.bridge.assetId vault :=
  BitVec.le_def.mpr ((le_askedSum hasked).trans h.backed)

/-- The vault asks for nothing, after something is settled. -/
theorem idle_settled (h : s.Backed vault)
    (hasked : amount ∈ s.bridge.pendingWithdraws.get who) :
    (s.settled who amount).get vault = [] := by
  rw [get_settled hasked, if_neg (Ne.symm (h.ne_vault hasked))]
  exact h.idle

/-- A refund. -/
theorem refunded (h : s.Backed vault) (hasked : amount ∈ s.bridge.pendingWithdraws.get who) :
    (s.refunded who amount).Backed vault := by
  have hle := h.le_free hasked
  have hne := h.ne_vault hasked
  refine ⟨h.account, h.covered.moved (h.account ▸ hle), ?_, h.idle_settled hasked⟩
  change askedSum (s.settled who amount) ≤
    ((s.assets.moved s.bridge.assetId s.bridge.pendingWithdrawVault who amount).free
      s.bridge.assetId vault).toNat
  rw [h.account, GenericAsset.Store.free_moved_from (Ne.symm hne), BitVec.toNat_sub_of_le hle]
  have hsettled := askedSum_settled hasked
  have hbacked := h.backed
  omega

/-- The end of a withdrawal. -/
theorem finished (h : s.Backed vault) (hasked : amount ∈ s.bridge.pendingWithdraws.get who) :
    (s.finished who amount).Backed vault :=
  ⟨h.account, h.covered, ((Nat.le_add_right _ _).trans (askedSum_settled hasked).le).trans h.backed,
    h.idle_settled hasked⟩

end State.Backed

variable [Inhabited AccountId]

/-- **A transfer** moves an amount that is there, or nothing. -/
theorem transfer_cases {key : AccountId} {origin : Origin AccountId} {assetId : AssetId}
    {toAccount : AccountId} {assets ledger : GenericAsset.Store AccountId}
    (h : wp (GenericAsset.dispatch key origin (.transfer assetId toAccount amount) :
        GenericAsset.Prog β AccountId Unit)
      (fun _ t => t = assets) (fun _ t => t = assets) False ledger) :
    assets = ledger ∨ ∃ who, origin = .signed who ∧ amount ≤ ledger.free assetId who ∧
      assets = ledger.moved assetId who toAccount amount := by
  have hspec : wp (GenericAsset.dispatch key origin (.transfer assetId toAccount amount) :
        GenericAsset.Prog β AccountId Unit)
      (fun _ t => ∃ who, origin = .signed who ∧ amount ≤ ledger.free assetId who ∧
        t = ledger.moved assetId who toAccount amount) (fun _ t => t = ledger) True ledger := by
    simp only [GenericAsset.dispatch, GenericAsset.transfer, GenericAsset.makeTransferWithEvent,
      wp_bind, wp_ensureSigned, wp_ensure, GenericAsset.wp_makeTransfer]
    exact ⟨fun who hwho => ⟨fun _ => ⟨fun hle => ⟨fun _ => trivial,
      fun _ => ⟨who, hwho, hle, rfl⟩⟩, fun _ => trivial⟩, fun _ => trivial⟩, fun _ => trivial⟩
  rcases cases_of_wp (wp_and h hspec) with ⟨_, _, -, rfl, hmoved⟩ | ⟨_, _, -, rfl, hsame⟩ | ⟨-, hno⟩
  · exact Or.inr hmoved
  · exact Or.inl hsame
  · exact hno.1.elim

/-- **The vault stays in order**, if others act. -/
theorem Effect.backed (heff : Effect β s i s') (h : s.Backed vault) (hi : i.byOthers vault) :
    s'.Backed vault := by
  cases heff with
  | unchanged => exact h
  | switched => exact h.of_same rfl rfl rfl rfl
  | ledgerCall origin call assets hcall =>
    cases call with
    | transfer assetId toAccount amount =>
      rcases transfer_cases hcall with rfl | ⟨who, rfl, hle, rfl⟩
      · exact h
      · exact h.moved hle fun heq => hi (congrArg Origin.signed heq)
    | create => exact hi.elim
    | updatePermission => exact hi.elim
    | mint => exact hi.elim
    | burn => exact hi.elim
    | createReserved => exact hi.elim
  | credited author account amount txHash _ _ hcan => exact h.credited hcan txHash
  | lost => exact h.of_same rfl rfl rfl rfl
  | held => exact h.of_same rfl rfl rfl rfl
  | blackened author account txHashes =>
    obtain ⟨m, hm⟩ := foldl_unseen txHashes (s.taken account)
    rw [hm]
    exact h.of_same rfl rfl rfl rfl
  | whitened author account hclears =>
    have htaken : (s.taken account).Backed vault := h.of_same rfl rfl rfl rfl
    exact (htaken.clears hclears).of_same rfl rfl rfl rfl
  | stuck author account _ hclears =>
    have htaken : (s.taken account).Backed vault := h.of_same rfl rfl rfl rfl
    exact (htaken.clears hclears).of_same rfl rfl rfl rfl
  | withdrawn who amount hle => exact h.withdrawn hle fun heq => hi (congrArg Origin.signed heq)
  | refunded author who amount hasked => exact h.refunded hasked
  | finished author who amount hasked => exact h.finished hasked

/-- **The vault is in order** in every state that is reached by others, from a genesis that
hands out no more of the asset than it notes down. -/
theorem backed_of_reach {config : GenesisConfig AccountId} {s₀ : State AccountId}
    (hgenesis : config.build β = some s₀) (hcovered : s₀.assets.Covered config.assetId)
    (hreach : Reach (next β) (fun _ i => i.byOthers config.pendingWithdrawVault) s₀ s) :
    s.Backed config.pendingWithdrawVault := by
  refine hreach.invariant (I := fun s => s.Backed config.pendingWithdrawVault) ?_
    fun _ _ _ h hi hnext => (next_effect hnext).backed h hi
  unfold GenesisConfig.build at hgenesis
  split at hgenesis
  · cases hgenesis
    exact ⟨rfl, hcovered, Nat.zero_le _, rfl⟩
  · cases hgenesis

omit [Inhabited AccountId] in
/-- Who has an authority. -/
theorem hasAuth_of_get? {auth : Auth} (h : s.bridge.admins.get? who = some auth ∨
    s.bridge.admins.get? who = some .all) : s.bridge.hasAuth who auth = true := by
  have hkey : ¬s.bridge.admins.containsKey who = false := by
    rw [StorageMap.containsKey_eq_false]
    rintro hnone
    rw [hnone] at h
    rcases h with h | h <;> cases h
  rw [Store.hasAuth, if_neg hkey, decide_eq_true_eq]
  rcases h with h | h
  · exact Or.inr (StorageMap.get_of_get? h)
  · exact Or.inl (StorageMap.get_of_get? h)

omit [Inhabited AccountId] in
/-- **A refund goes through** for everything that was asked for. -/
theorem State.Backed.refund_ok (h : s.Backed vault) {author : AccountId}
    (hauth : s.bridge.hasAuth author .refund = true)
    (hasked : amount ∈ s.bridge.pendingWithdraws.get who) :
    (refund (.signed author) who amount : Prog β AccountId Unit) s =
      .ok () (s.refunded who amount) := by
  obtain rfl : s.bridge.pendingWithdrawVault = vault := h.account
  have hle := h.le_free hasked
  have hfits : β.sums = true → s.bridge.pendingWithdrawVault ≠ who →
      (s.assets.free s.bridge.assetId who).toNat + amount.toNat < 2 ^ 128 :=
    fun _ hne => h.covered.bounded.fits hle hne
  refine eq_ok_of_wp ?_
  simp only [refund, wp_bind, wp_gets, wp_ensure, wp_ensureSigned, wp_zoom,
    GenericAsset.makeTransferWithEvent, GenericAsset.wp_makeTransfer,
    wp_removeFromPendingWithdraws, depositEvent, wp_modify]
  refine ⟨?_, fun hno => hno author rfl⟩
  rintro _ ⟨⟩
  exact ⟨fun _ => ⟨fun _ => ⟨fun _ => ⟨fun hno => hno hfits, fun _ => rfl⟩, fun hno => hno hle⟩,
    fun hno => hno hasked⟩, fun hno => hno hauth⟩

/-- **Pending withdrawals are refundable**, from a genesis that hands out no more of the asset
than it notes down. In every state that is reached without a signature of the vault, the vault
has at least the sum of all that was asked for. An administrator with the authority can refund
each amount that somebody has asked for: the refund succeeds, moves exactly the amount from the
vault, and takes exactly one note of it away. -/
theorem pending_refundable {config : GenesisConfig AccountId} {s₀ : State AccountId}
    (hgenesis : config.build β = some s₀)
    (hcovered : s₀.assets.held config.assetId ≤
      (s₀.assets.totalIssuance.get config.assetId).toNat)
    (hreach : Reach (next β) (fun _ i => i.byOthers config.pendingWithdrawVault) s₀ s) :
    askedSum s.bridge.pendingWithdraws ≤
      (s.assets.free s.bridge.assetId config.pendingWithdrawVault).toNat ∧
    ∀ author who amount, (s.bridge.admins.get? author = some .refund ∨
        s.bridge.admins.get? author = some .all) →
      amount ∈ s.bridge.pendingWithdraws.get who →
      ∃ s', (refund (.signed author) who amount : Prog β AccountId Unit) s = .ok () s' ∧
        (s'.assets.free s.bridge.assetId who).toNat =
          (s.assets.free s.bridge.assetId who).toNat + amount.toNat ∧
        (s'.assets.free s.bridge.assetId config.pendingWithdrawVault).toNat + amount.toNat =
          (s.assets.free s.bridge.assetId config.pendingWithdrawVault).toNat ∧
        s'.bridge.pendingWithdraws.get who = (s.bridge.pendingWithdraws.get who).erase amount ∧
        ∀ account, account ≠ who →
          s'.bridge.pendingWithdraws.get account = s.bridge.pendingWithdraws.get account := by
  have h := backed_of_reach hgenesis hcovered hreach
  refine ⟨h.backed, fun author who amount hauth hasked => ?_⟩
  have hle := h.le_free hasked
  have hne := Ne.symm (h.ne_vault hasked)
  have hassets : (s.refunded who amount).assets =
      s.assets.moved s.bridge.assetId config.pendingWithdrawVault who amount := by
    rw [State.refunded, h.account]
  refine ⟨s.refunded who amount, h.refund_ok (hasAuth_of_get? hauth) hasked, ?_, ?_, ?_,
    fun account haccount => ?_⟩
  · rw [hassets, h.covered.bounded.free_moved_to hle hne]
  · rw [hassets, GenericAsset.Store.free_moved_from hne, BitVec.toNat_sub_of_le hle]
    exact Nat.sub_add_cancel (BitVec.le_def.mp hle)
  · exact (get_settled hasked who).trans (if_pos rfl)
  · exact (get_settled hasked account).trans (if_neg haccount)

end Backed

theorem pending_refundable_example :
    ∃ s, run (next .release) [.bridge (.signed 2) (.deposit 5 10 1),
        .bridge (.signed 5) (.withdraw 4), .bridge (.signed 5) (.withdraw 4)] exampleState =
        some s ∧
      s.bridge.pendingWithdraws.get 5 = [4, 4] ∧ s.assets.free 1 7 = 8 ∧
      ∃ s', (refund (.signed 2) 5 4 : Prog .release ℕ Unit) s = .ok () s' ∧
        s'.bridge.pendingWithdraws.get 5 = [4] := by
  obtain ⟨s, hrun, hasked, hvault, hadmin⟩ := exists_of_any
    (p := fun s : State ℕ => s.bridge.pendingWithdraws.get 5 = [4, 4] ∧ s.assets.free 1 7 = 8 ∧
      s.bridge.admins.get? 2 = some .all)
    (o := run (next .release) [.bridge (.signed 2) (.deposit 5 10 1),
        .bridge (.signed 5) (.withdraw 4), .bridge (.signed 5) (.withdraw 4)] exampleState)
    (by decide +kernel)
  have hreach : Reach (next .release) (fun _ i => i.byOthers exampleConfig.pendingWithdrawVault)
      exampleState s := reach_of_run hrun (by simp [Step.byOthers, exampleConfig])
  have hcovered : exampleState.assets.held exampleConfig.assetId ≤
      (exampleState.assets.totalIssuance.get exampleConfig.assetId).toNat := by decide +kernel
  have hmem : (4 : Balance) ∈ s.bridge.pendingWithdraws.get 5 := by simp [hasked]
  obtain ⟨-, hrefund⟩ := pending_refundable exampleConfig_build hcovered hreach
  obtain ⟨s', hs', -, -, hnotes, -⟩ := hrefund 2 5 4 (Or.inr hadmin) hmem
  exact ⟨s, hrun, hasked, hvault, s', hs', by simp [hnotes, hasked]⟩

/-- A genesis in which two accounts hold the half of all that a balance can be, each. -/
def crowdedConfig : GenesisConfig ℕ :=
  { exampleConfig with
    genericAsset :=
      { nextAssetId := 5
        assets := [1]
        initialBalance := 2 ^ 127
        endowedAccounts := [5, 6]
        symbols := [] } }

/-- Both accounts ask for all they have, and the balance of the vault comes round. -/
theorem not_refundable : ¬∀ (config : GenesisConfig ℕ) (s₀ s : State ℕ),
    config.build .release = some s₀ →
    Reach (next .release) (fun _ i => i.byOthers config.pendingWithdrawVault) s₀ s →
    askedSum s.bridge.pendingWithdraws ≤
      (s.assets.free s.bridge.assetId config.pendingWithdrawVault).toNat := by
  intro h
  obtain ⟨s, hbuilt, hasked, hvault⟩ := exists_of_any
    (p := fun s : State ℕ => askedSum s.bridge.pendingWithdraws = 2 ^ 128 ∧
      s.assets.free s.bridge.assetId 7 = 0)
    (o := (crowdedConfig.build .release).bind (run (next .release)
      [.bridge (.signed 5) (.withdraw (2 ^ 127)), .bridge (.signed 6) (.withdraw (2 ^ 127))]))
    (by decide +kernel)
  obtain ⟨s₀, hgenesis, hrun⟩ := Option.bind_eq_some_iff.mp hbuilt
  have hreach : Reach (next .release) (fun _ i => i.byOthers crowdedConfig.pendingWithdrawVault)
      s₀ s := reach_of_run hrun (by simp [Step.byOthers, crowdedConfig, exampleConfig])
  have hle := h crowdedConfig s₀ s hgenesis hreach
  have hzero : s.assets.free s.bridge.assetId crowdedConfig.pendingWithdrawVault = 0 := hvault
  rw [hasked, hzero] at hle
  exact absurd hle (by decide)

end Bridge

end MoneyPool
