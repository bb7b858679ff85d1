import MoneyPool.GenericAsset.Ledger

/-!
# The books of the ledger

What all accounts hold of an asset, free and reserved, is
`MoneyPool.GenericAsset.Store.held`. The books are in order
(`MoneyPool.GenericAsset.Store.Books`) if that is the issuance of the asset, and if
there are issuances and permissions only under ids that have been given out. No
operation of the pallet disturbs them, because what is held bounds every balance
and so no addition on the side of a receiver overflows.

The invariant takes a surplus as a parameter, by which more is held than issued.
Creating an asset leaves any surplus as it is, so that the parameter serves to
follow the genesis storage, whose issuance need not be what it hands out.
-/

namespace MoneyPool

namespace GenericAsset

open Pallet Pallet.Exec

variable {AccountId : Type} [DecidableEq AccountId] {β : Build}

/-! ### What is held of an asset -/

/-- The balance of an entry, if it is one of the given asset. -/
def balanceOf (assetId : AssetId) (key : AssetId × AccountId) (balance : Balance) : ℕ :=
  if key.1 = assetId then balance.toNat else 0

/-- **What all accounts hold of an asset**, free and reserved. -/
def Store.held (s : Store AccountId) (assetId : AssetId) : ℕ :=
  s.freeBalance.total (balanceOf assetId) + s.reservedBalance.total (balanceOf assetId)

section Held

variable {s t : Store AccountId} {assetId asset' : AssetId} {who who' : AccountId}
  {balance : Balance}

omit [DecidableEq AccountId] in
theorem balanceOf_default (key : AssetId × AccountId) : balanceOf assetId key default = 0 := by
  unfold balanceOf
  split <;> rfl

omit [DecidableEq AccountId] in
theorem balanceOf_self : balanceOf assetId (assetId, who) balance = balance.toNat := if_pos rfl

omit [DecidableEq AccountId] in
theorem balanceOf_of_ne (h : asset' ≠ assetId) :
    balanceOf assetId (asset', who) balance = 0 := if_neg h

theorem weight_balance (m : StorageMap (AssetId × AccountId) Balance) :
    m.weight (balanceOf assetId) (assetId, who) = (m.get (assetId, who)).toNat := by
  rw [StorageMap.weight_eq balanceOf_default, balanceOf_self]

/-- The total of an asset after one of its balances is written. -/
theorem total_balance (m : StorageMap (AssetId × AccountId) Balance) (assetId : AssetId)
    (who : AccountId) (balance : Balance) :
    (m.insert (assetId, who) balance).total (balanceOf assetId) + (m.get (assetId, who)).toNat =
      m.total (balanceOf assetId) + balance.toNat := by
  have hdefault : ∀ key : AssetId × AccountId, balanceOf assetId key default = 0 :=
    balanceOf_default
  have := StorageMap.total_insert_get hdefault m (assetId, who) balance
  rwa [balanceOf_self, balanceOf_self] at this

/-- The total of an asset after a balance of another one is written. -/
theorem total_balance_of_ne (h : asset' ≠ assetId)
    (m : StorageMap (AssetId × AccountId) Balance) :
    (m.insert (asset', who) balance).total (balanceOf assetId) = m.total (balanceOf assetId) := by
  have := StorageMap.total_insert (f := balanceOf assetId) m (asset', who) balance
  rwa [StorageMap.weight_eq balanceOf_default, balanceOf_of_ne h, balanceOf_of_ne h] at this

theorem held_setFree (s : Store AccountId) (assetId : AssetId) (who : AccountId)
    (balance : Balance) :
    (s.setFree assetId who balance).held assetId + (s.free assetId who).toNat =
      s.held assetId + balance.toNat := by
  have := total_balance s.freeBalance assetId who balance
  simp only [Store.held, Store.setFree, Store.free]
  omega

theorem held_setFree_of_ne (h : asset' ≠ assetId) :
    (s.setFree asset' who balance).held assetId = s.held assetId := by
  simp only [Store.held, Store.setFree, total_balance_of_ne h]

theorem held_setReserved (s : Store AccountId) (assetId : AssetId) (who : AccountId)
    (balance : Balance) :
    (s.setReserved assetId who balance).held assetId + (s.reserved assetId who).toNat =
      s.held assetId + balance.toNat := by
  have := total_balance s.reservedBalance assetId who balance
  simp only [Store.held, Store.setReserved, Store.reserved]
  omega

theorem held_setReserved_of_ne (h : asset' ≠ assetId) :
    (s.setReserved asset' who balance).held assetId = s.held assetId := by
  simp only [Store.held, Store.setReserved, total_balance_of_ne h]

/-- What one account has is at most what is held. -/
theorem free_add_reserved_le_held (s : Store AccountId) (assetId : AssetId) (who : AccountId) :
    (s.free assetId who).toNat + (s.reserved assetId who).toNat ≤ s.held assetId := by
  have hfree := StorageMap.weight_le_total (f := balanceOf assetId) s.freeBalance (assetId, who)
  have hres := StorageMap.weight_le_total (f := balanceOf assetId) s.reservedBalance (assetId, who)
  rw [weight_balance] at hfree hres
  exact Nat.add_le_add hfree hres

/-- What two accounts have free is at most what is held. -/
theorem free_add_free_le_held (s : Store AccountId) (assetId : AssetId) (h : who ≠ who') :
    (s.free assetId who).toNat + (s.free assetId who').toNat ≤ s.held assetId := by
  have hkey : (assetId, who) ≠ (assetId, who') := fun heq => h (Prod.ext_iff.mp heq).2
  have := StorageMap.weight_add_weight_le_total (f := balanceOf assetId) s.freeBalance hkey
  rw [weight_balance, weight_balance] at this
  exact this.trans (Nat.le_add_right _ _)

/-- **Room for a receiver**: what is there to be moved fits into another balance, if all that
is held fits. -/
theorem transfer_fits (hheld : s.held assetId < 2 ^ 128) {amount : Balance}
    (hle : amount ≤ s.free assetId who) (hne : who ≠ who') :
    (s.free assetId who').toNat + amount.toNat < 2 ^ 128 := by
  have htwo := free_add_free_le_held s assetId hne
  have hnat : amount.toNat ≤ (s.free assetId who).toNat := BitVec.le_def.mp hle
  omega

/-- Moving an asset leaves what is held of another one. -/
theorem held_moved_of_ne {fromAccount toAccount : AccountId} {amount : Balance}
    (h : asset' ≠ assetId) :
    (s.moved asset' fromAccount toAccount amount).held assetId = s.held assetId := by
  unfold Store.moved
  split
  · rfl
  · rw [held_setFree_of_ne h, held_setFree_of_ne h]

/-- **Moving an asset** leaves what is held of it, if the receiver can take the amount. -/
theorem held_moved {fromAccount toAccount : AccountId} {amount : Balance}
    (hle : amount ≤ s.free assetId fromAccount)
    (hfits : fromAccount ≠ toAccount → (s.free assetId toAccount).toNat + amount.toNat < 2 ^ 128) :
    (s.moved assetId fromAccount toAccount amount).held assetId = s.held assetId := by
  unfold Store.moved
  split
  · rfl
  · rename_i hne
    have hfrom := held_setFree s assetId fromAccount (s.free assetId fromAccount - amount)
    have hto := held_setFree
      (s.setFree assetId fromAccount (s.free assetId fromAccount - amount)) assetId toAccount
      (s.free assetId toAccount + amount)
    rw [BitVec.toNat_sub_of_le hle] at hfrom
    rw [BitVec.toNat_add_of_lt (hfits hne), Store.free_setFree,
      if_neg fun hand => hne hand.2.symm] at hto
    have hnat : amount.toNat ≤ (s.free assetId fromAccount).toNat := BitVec.le_def.mp hle
    omega

/-- **All that is held of an asset fits** a balance, so that no receiver comes round. -/
def Store.Bounded (s : Store AccountId) (assetId : AssetId) : Prop := s.held assetId < 2 ^ 128

namespace Store.Bounded

variable {fromAccount toAccount : AccountId} {amount : Balance}

theorem fits (h : s.Bounded assetId) (hle : amount ≤ s.free assetId fromAccount)
    (hne : fromAccount ≠ toAccount) :
    (s.free assetId toAccount).toNat + amount.toNat < 2 ^ 128 := transfer_fits h hle hne

/-- A transfer of this or another asset leaves what is held. -/
theorem held_moved (h : s.Bounded assetId) (hle : amount ≤ s.free asset' fromAccount) :
    (s.moved asset' fromAccount toAccount amount).held assetId = s.held assetId := by
  rcases eq_or_ne asset' assetId with rfl | hne
  · exact GenericAsset.held_moved hle (h.fits hle)
  · exact held_moved_of_ne hne

/-- What the receiver of a transfer has afterwards. -/
theorem free_moved_to (h : s.Bounded assetId) (hle : amount ≤ s.free assetId fromAccount)
    (hne : fromAccount ≠ toAccount) :
    ((s.moved assetId fromAccount toAccount amount).free assetId toAccount).toNat =
      (s.free assetId toAccount).toNat + amount.toNat := by
  rw [Store.free_moved_to hne, BitVec.toNat_add_of_lt (h.fits hle hne)]

/-- Who does not send this asset, has no less of it after a transfer. -/
theorem free_le_moved (h : s.Bounded assetId) (hle : amount ≤ s.free asset' fromAccount)
    (hwho : asset' = assetId → who ≠ fromAccount) :
    (s.free assetId who).toNat ≤
      ((s.moved asset' fromAccount toAccount amount).free assetId who).toNat := by
  rcases eq_or_ne asset' assetId with rfl | hasset
  · rcases eq_or_ne who toAccount with rfl | hto
    · rw [h.free_moved_to hle (Ne.symm (hwho rfl))]
      exact Nat.le_add_right _ _
    · rw [Store.free_moved_of_ne (hwho rfl) hto]
  · rw [Store.free_moved_asset (Ne.symm hasset)]

end Store.Bounded

/-- The total of an asset is the sum of its balances over all accounts. -/
theorem total_eq_finsum_balance (m : StorageMap (AssetId × AccountId) Balance)
    (assetId : AssetId) :
    m.total (balanceOf assetId) = ∑ᶠ who, (m.get (assetId, who)).toNat := by
  have hinj : Function.Injective fun who : AccountId => (assetId, who) :=
    fun _ _ h => (Prod.ext_iff.mp h).2
  have hrange : ∀ key ∈ Function.support fun key => balanceOf assetId key (m.get key),
      key ∈ Set.univ ↔ key ∈ Set.range fun who : AccountId => (assetId, who) := by
    rintro ⟨asset', who⟩ hkey
    refine iff_of_true (Set.mem_univ _) ⟨who, Prod.ext ?_ rfl⟩
    by_contra hne
    exact hkey (balanceOf_of_ne (Ne.symm hne))
  rw [StorageMap.total_eq_finsum balanceOf_default, ← finsum_mem_univ,
    finsum_mem_inter_support_eq' _ _ _ hrange, finsum_mem_range hinj]
  exact finsum_congr fun who => balanceOf_self

/-- Only finitely many accounts have something of an asset. -/
theorem finite_balances (m : StorageMap (AssetId × AccountId) Balance) (assetId : AssetId) :
    (fun who => (m.get (assetId, who)).toNat).HasFiniteSupport := by
  have hinj : Function.Injective fun who : AccountId => (assetId, who) :=
    fun _ _ h => (Prod.ext_iff.mp h).2
  have hfin : (Function.support fun key => balanceOf assetId key (m.get key)).Finite :=
    (Finset.finite_toSet _).subset (StorageMap.support_subset_keys balanceOf_default m)
  refine (hfin.preimage hinj.injOn).subset fun who hwho => ?_
  rw [Set.mem_preimage, Function.mem_support, balanceOf_self]
  exact hwho

/-- **What is held** is the sum over all accounts of free and reserved balance. -/
theorem held_eq_finsum (s : Store AccountId) (assetId : AssetId) :
    s.held assetId =
      ∑ᶠ who, ((s.free assetId who).toNat + (s.reserved assetId who).toNat) := by
  rw [Store.held, total_eq_finsum_balance, total_eq_finsum_balance]
  exact (finsum_add_distrib (finite_balances _ _) (finite_balances _ _)).symm

end Held

/-! ### Books in order -/

/-- **The books are in order**, but that of every asset `surplus` more is held than
was issued. -/
structure Store.Books (s : Store AccountId) (surplus : AssetId → ℕ) : Prop where
  /-- What is held was issued, but for the surplus. -/
  held : ∀ assetId, s.held assetId = (s.totalIssuance.get assetId).toNat + surplus assetId
  /-- Only ids that have been given out are issued. -/
  given : ∀ assetId, s.totalIssuance.containsKey assetId = true → assetId < s.nextAssetId
  /-- Only what is issued has permissions. -/
  permitted : ∀ assetId, s.permissions.containsKey assetId = true →
    s.totalIssuance.containsKey assetId = true
  /-- Only what is issued has a surplus. -/
  issued : ∀ assetId, surplus assetId ≠ 0 → s.totalIssuance.containsKey assetId = true

/-- The books are in order, without any surplus. -/
abbrev Store.Balanced (s : Store AccountId) : Prop := s.Books fun _ => 0

namespace Store.Books

variable {s t : Store AccountId} {surplus : AssetId → ℕ} {assetId : AssetId}
  {who fromAccount toAccount : AccountId} {amount : Balance}

omit [DecidableEq AccountId] in
/-- The books are about the balances, the issuances, the ids and the permissions. -/
theorem of_eq (h : s.Books surplus) (hheld : ∀ assetId, t.held assetId = s.held assetId)
    (htotal : t.totalIssuance = s.totalIssuance) (hnext : t.nextAssetId = s.nextAssetId)
    (hperm : t.permissions = s.permissions) : t.Books surplus where
  held assetId := by rw [hheld, htotal, h.held]
  given assetId hkey := by
    rw [htotal] at hkey
    rw [hnext]
    exact h.given assetId hkey
  permitted assetId hkey := by
    rw [hperm] at hkey
    rw [htotal]
    exact h.permitted assetId hkey
  issued assetId hne := by
    rw [htotal]
    exact h.issued assetId hne

omit [DecidableEq AccountId] in
/-- Nothing is held of an asset that was not issued. -/
theorem held_of_not_issued (h : s.Books surplus)
    (hfree : s.totalIssuance.containsKey assetId = false) : s.held assetId = 0 := by
  have hno : ¬s.totalIssuance.containsKey assetId = true := by simp [hfree]
  have hsurplus : surplus assetId = 0 := by
    by_contra hne
    exact hno (h.issued assetId hne)
  rw [h.held, hsurplus, StorageMap.get_of_not_containsKey hno]
  rfl

/-- An issuance and a balance may be written together, if they change alike. -/
theorem write (h : s.Books surplus) (who : AccountId) (balance total : Balance)
    (hid : assetId < s.nextAssetId)
    (hsum : balance.toNat + (s.totalIssuance.get assetId).toNat =
      total.toNat + (s.free assetId who).toNat) :
    (Store.setFree { s with totalIssuance := s.totalIssuance.insert assetId total } assetId who
      balance).Books surplus where
  held asset' := by
    by_cases heq : assetId = asset'
    · subst heq
      have hold := h.held assetId
      have hnew : (Store.setFree { s with totalIssuance := s.totalIssuance.insert assetId total }
          assetId who balance).held assetId + (s.free assetId who).toNat =
          s.held assetId + balance.toNat := held_setFree ..
      simp only [Store.setFree, StorageMap.get_insert, if_true] at hnew ⊢
      omega
    · have hnew : (Store.setFree { s with totalIssuance := s.totalIssuance.insert assetId total }
          assetId who balance).held asset' = s.held asset' := held_setFree_of_ne heq
      rw [hnew, h.held]
      simp [Store.setFree, Ne.symm heq]
  given asset' hkey := by
    rw [StorageMap.containsKey_iff_mem] at hkey
    rcases StorageMap.mem_keys_insert.mp hkey with rfl | hmem
    · exact hid
    · exact h.given asset' (StorageMap.containsKey_iff_mem.mpr hmem)
  permitted asset' hkey := by
    have hold := StorageMap.containsKey_iff_mem.mp (h.permitted asset' hkey)
    exact StorageMap.containsKey_iff_mem.mpr (StorageMap.mem_keys_insert.mpr (Or.inr hold))
  issued asset' hne := by
    have hold := StorageMap.containsKey_iff_mem.mp (h.issued asset' hne)
    exact StorageMap.containsKey_iff_mem.mpr (StorageMap.mem_keys_insert.mpr (Or.inr hold))

omit [DecidableEq AccountId] in
/-- What is issued may be given permissions. -/
theorem permit (h : s.Books surplus) (hissued : s.totalIssuance.containsKey assetId = true)
    (permissions : PermissionVersions AccountId) :
    { s with permissions := s.permissions.insert assetId permissions : Store AccountId }.Books
      surplus where
  held := h.held
  given := h.given
  permitted asset' hkey := by
    rw [StorageMap.containsKey_iff_mem] at hkey
    rcases StorageMap.mem_keys_insert.mp hkey with rfl | hmem
    · exact hissued
    · exact h.permitted asset' (StorageMap.containsKey_iff_mem.mpr hmem)
  issued := h.issued

/-- A permission is one to do something with an issued asset. -/
theorem issued_of_checkPermission (h : s.Books surplus) {what : PermissionType}
    (hcheck : s.checkPermission assetId who what = true) :
    s.totalIssuance.containsKey assetId = true := by
  refine h.permitted assetId ?_
  by_contra hno
  unfold Store.checkPermission at hcheck
  rw [StorageMap.get_of_not_containsKey hno] at hcheck
  cases what <;> cases hcheck

/-- Money may move, if the receiver can take it. -/
theorem moved (h : s.Books surplus) (hle : amount ≤ s.free assetId fromAccount)
    (hfits : fromAccount ≠ toAccount → (s.free assetId toAccount).toNat + amount.toNat < 2 ^ 128) :
    (s.moved assetId fromAccount toAccount amount).Books surplus := by
  have hheld : ∀ asset', (s.moved assetId fromAccount toAccount amount).held asset' =
      s.held asset' := by
    intro asset'
    rcases eq_or_ne assetId asset' with rfl | hne
    · exact held_moved hle hfits
    · exact held_moved_of_ne hne
  obtain ⟨m, hm⟩ := s.moved_eq assetId fromAccount toAccount amount
  rw [hm] at hheld ⊢
  exact h.of_eq hheld rfl rfl rfl

/-- Money may be reserved, if there is room for it. -/
theorem reserved (h : s.Books surplus) (hle : amount ≤ s.free assetId who)
    (hfits : (s.reserved assetId who).toNat + amount.toNat < 2 ^ 128) :
    ((s.setReserved assetId who (s.reserved assetId who + amount)).setFree assetId who
      (s.free assetId who - amount)).Books surplus := by
  refine h.of_eq (fun asset' => ?_) rfl rfl rfl
  by_cases heq : assetId = asset'
  · subst heq
    have hres := held_setReserved s assetId who (s.reserved assetId who + amount)
    have hfree := held_setFree (s.setReserved assetId who (s.reserved assetId who + amount))
      assetId who (s.free assetId who - amount)
    rw [BitVec.toNat_add_of_lt hfits] at hres
    rw [BitVec.toNat_sub_of_le hle, Store.free_setReserved] at hfree
    have hnat : amount.toNat ≤ (s.free assetId who).toNat := BitVec.le_def.mp hle
    omega
  · rw [held_setFree_of_ne heq, held_setReserved_of_ne heq]

/-- Money may be released, if there is room for it. -/
theorem unreserved (h : s.Books surplus) (hle : amount ≤ s.reserved assetId who)
    (hfits : (s.free assetId who).toNat + amount.toNat < 2 ^ 128) :
    ((s.setFree assetId who (s.free assetId who + amount)).setReserved assetId who
      (s.reserved assetId who - amount)).Books surplus := by
  refine h.of_eq (fun asset' => ?_) rfl rfl rfl
  by_cases heq : assetId = asset'
  · subst heq
    have hfree := held_setFree s assetId who (s.free assetId who + amount)
    have hres := held_setReserved (s.setFree assetId who (s.free assetId who + amount))
      assetId who (s.reserved assetId who - amount)
    rw [BitVec.toNat_add_of_lt hfits] at hfree
    rw [BitVec.toNat_sub_of_le hle, Store.reserved_setFree] at hres
    have hnat : amount.toNat ≤ (s.reserved assetId who).toNat := BitVec.le_def.mp hle
    omega
  · rw [held_setReserved_of_ne heq, held_setFree_of_ne heq]

end Store.Books

/-! ### Room for the receiver -/

/-- **What is there to be moved fits where it may go**: into another free balance,
into the reserved one, and back. -/
structure Store.ReceiversFit (s : Store AccountId) : Prop where
  transfer : ∀ assetId fromAccount toAccount amount, amount ≤ s.free assetId fromAccount →
    fromAccount ≠ toAccount → (s.free assetId toAccount).toNat + amount.toNat < 2 ^ 128
  reserve : ∀ assetId who amount, amount ≤ s.free assetId who →
    (s.reserved assetId who).toNat + amount.toNat < 2 ^ 128
  unreserve : ∀ assetId who amount, amount ≤ s.reserved assetId who →
    (s.free assetId who).toNat + amount.toNat < 2 ^ 128

/-- What is held was issued, so it fits, and no receiver has to take more. -/
theorem Store.Books.receiversFit {s : Store AccountId} (h : s.Balanced) : s.ReceiversFit where
  transfer assetId fromAccount toAccount amount hle hne := by
    refine transfer_fits ?_ hle hne
    rw [h.held]
    exact (s.totalIssuance.get assetId).isLt
  reserve assetId who amount hle := by
    have hheld := h.held assetId
    have hone := free_add_reserved_le_held s assetId who
    have hissued := (s.totalIssuance.get assetId).isLt
    have hnat : amount.toNat ≤ (s.free assetId who).toNat := BitVec.le_def.mp hle
    omega
  unreserve assetId who amount hle := by
    have hheld := h.held assetId
    have hone := free_add_reserved_le_held s assetId who
    have hissued := (s.totalIssuance.get assetId).isLt
    have hnat : amount.toNat ≤ (s.reserved assetId who).toNat := BitVec.le_def.mp hle
    omega

/-! ### The operations -/

section Operations

variable {s : Store AccountId} {surplus : AssetId → ℕ} {P : Prop}

omit [DecidableEq AccountId] in
/-- An asset is created under an id that was not issued and is given out. -/
theorem takeAssetId_spec (h : s.Books surplus) (assetId : Option AssetId) :
    wp (takeAssetId assetId : Prog β AccountId AssetId)
      (fun id t => t.Books surplus ∧ t.totalIssuance.containsKey id = false ∧ id < t.nextAssetId)
      (fun _ t => t = s) P s := by
  cases assetId with
  | some id =>
    simp only [takeAssetId, wp_bind, wp_gets, wp_ensure, wp_pure, implies_true, and_true]
    exact fun hfresh hlt => ⟨h, hfresh, hlt⟩
  | none =>
    simp only [takeAssetId, wp_bind, wp_gets, wp_okOr_checkedAdd, wp_modify, wp_pure,
      implies_true, true_and]
    intro hfits
    have hlt : s.nextAssetId < s.nextAssetId + 1 := by
      rw [BitVec.lt_def, BitVec.toNat_add_of_lt hfits]
      exact Nat.lt_add_one _
    refine ⟨⟨h.held, fun id hkey => BitVec.lt_trans (h.given id hkey) hlt, h.permitted, h.issued⟩,
      ?_, hlt⟩
    by_contra hkey
    rw [Bool.not_eq_false] at hkey
    exact BitVec.lt_irrefl _ (h.given _ hkey)

variable [Inhabited AccountId]

/-- Creating an asset keeps the books in order. -/
theorem createAsset_spec (h : s.Books surplus) (assetId : Option AssetId)
    (fromAccount : Option AccountId) (options : AssetOptions AccountId) :
    wp (createAsset assetId fromAccount options : Prog β AccountId Unit)
      (fun _ t => t.Books surplus) (fun _ t => t = s) P s := by
  simp only [createAsset, wp_bind, wp_modify]
  refine wp_mono (takeAssetId_spec h assetId) ?_ (fun _ _ ht => ht) id
  rintro id t ⟨ht, hfresh, hlt⟩
  have hheld : t.held id = 0 := ht.held_of_not_issued hfresh
  have hfree := free_add_reserved_le_held t id (fromAccount.getD default)
  have hissuance : t.totalIssuance.get id = 0 :=
    StorageMap.get_of_not_containsKey (by simp [hfresh])
  refine (ht.write (fromAccount.getD default) options.initialIssuance options.initialIssuance hlt
    ?_).permit ?_ _
  · rw [hissuance]
    have : (t.free id (fromAccount.getD default)).toNat = 0 := by omega
    rw [this]
    rfl
  · exact StorageMap.containsKey_iff_mem.mpr (StorageMap.mem_keys_insert.mpr (Or.inl rfl))

omit [Inhabited AccountId] in
/-- Minting keeps the books in order. -/
theorem mintFree_spec (h : s.Books surplus) (assetId : AssetId) (who toAccount : AccountId)
    (amount : Balance) :
    wp (mintFree assetId who toAccount amount : Prog β AccountId Unit)
      (fun _ t => t.Books surplus) (fun _ t => t = s) P s := by
  simp only [mintFree, wp_bind, wp_gets, wp_ensure, wp_okOr_checkedAdd, wp_modify, implies_true,
    and_true, true_and]
  intro hperm htotal hfree
  refine h.write _ _ _ (h.given assetId (h.issued_of_checkPermission hperm)) ?_
  rw [BitVec.toNat_add_of_lt htotal, BitVec.toNat_add_of_lt hfree]
  omega

omit [Inhabited AccountId] in
/-- Burning keeps the books in order. -/
theorem burnFree_spec (h : s.Books surplus) (assetId : AssetId) (who toAccount : AccountId)
    (amount : Balance) :
    wp (burnFree assetId who toAccount amount : Prog β AccountId Unit)
      (fun _ t => t.Books surplus) (fun _ t => t = s) P s := by
  simp only [burnFree, wp_bind, wp_gets, wp_ensure, wp_okOr_checkedSub, wp_modify, implies_true,
    and_true, true_and]
  intro hperm htotal hfree
  refine h.write _ _ _ (h.given assetId (h.issued_of_checkPermission hperm)) ?_
  rw [BitVec.toNat_sub_of_le (BitVec.le_def.mpr htotal),
    BitVec.toNat_sub_of_le (BitVec.le_def.mpr hfree)]
  omega

omit [Inhabited AccountId] in
/-- A transfer keeps the books in order and overflows nowhere. -/
theorem makeTransfer_spec (h : s.Balanced) (assetId : AssetId)
    (fromAccount toAccount : AccountId) (amount : Balance) :
    wp (makeTransfer assetId fromAccount toAccount amount : Prog β AccountId Unit)
      (fun _ t => t.Balanced) (fun _ t => t = s) False s := by
  rw [wp_makeTransfer]
  refine ⟨fun hle => ?_, fun _ => rfl⟩
  have hfits := h.receiversFit.transfer assetId fromAccount toAccount amount hle
  exact ⟨fun hno => hno fun _ => hfits, fun _ => h.moved hle hfits⟩

section Locks

variable (twox64 : List UInt8 → LockIdentifier)

omit [Inhabited AccountId] in
/-- Reserving keeps the books in order. -/
theorem reserve_spec (h : s.Balanced) (assetId : AssetId) (who : AccountId) (amount : Balance) :
    wp (reserve twox64 assetId who amount : Prog β AccountId (BitVec 128))
      (fun _ t => t.Balanced) (fun _ t => t = s) True s := by
  rw [wp_reserve]
  refine ⟨fun hle => ⟨fun _ => trivial, fun _ => ?_⟩, fun _ => rfl⟩
  have hfits := h.receiversFit.reserve assetId who amount hle
  exact (h.reserved hle hfits).of_eq (fun _ => rfl) rfl rfl rfl

omit [Inhabited AccountId] in
/-- Unreserving keeps the books in order. -/
theorem unreserve_spec (h : s.Balanced) (assetId : AssetId) (who : AccountId) (amount : Balance)
    (lockId : Option (BitVec 128)) :
    wp (unreserve twox64 assetId who amount lockId : Prog β AccountId Unit)
      (fun _ t => t.Balanced) (fun _ t => t = s) False s := by
  rw [wp_unreserve]
  refine ⟨fun hle => ⟨fun _ _ => ?_, fun _ => rfl⟩, fun _ => rfl⟩
  have hfits := h.receiversFit.unreserve assetId who amount hle
  refine ⟨fun hno => hno fun _ => hfits, fun _ => ?_⟩
  exact (h.unreserved hle hfits).of_eq (fun _ => rfl) rfl rfl rfl

end Locks

/-- **The calls keep the books in order.** -/
theorem dispatch_spec (h : s.Balanced) (key : AccountId) (origin : Origin AccountId)
    (call : Call AccountId) :
    wp (dispatch key origin call : Prog β AccountId Unit) (fun _ t => t.Balanced)
      (fun _ t => t = s) False s := by
  cases call with
  | create initialIssuance symbol =>
    simp only [dispatch, create, wp_bind, wp_ensureRoot, wp_gets, wp_modify]
    refine ⟨fun _ => wp_mono (createAsset_spec h _ _ _) (fun _ t ht => ?_) (fun _ _ ht => ht) id,
      fun _ => trivial⟩
    exact ht.of_eq (fun _ => rfl) rfl rfl rfl
  | transfer assetId toAccount amount =>
    simp only [dispatch, transfer, makeTransferWithEvent, wp_bind, wp_ensureSigned, wp_ensure]
    exact ⟨fun _ _ => ⟨fun _ => makeTransfer_spec h .., fun _ => trivial⟩, fun _ => trivial⟩
  | updatePermission assetId newPermission =>
    simp only [dispatch, updatePermission, wp_bind, wp_ensureSigned, wp_gets, wp_ensure, wp_modify]
    exact ⟨fun _ _ =>
        ⟨fun hperm => h.permit (h.issued_of_checkPermission hperm) _, fun _ => trivial⟩,
      fun _ => trivial⟩
  | mint assetId toAccount amount =>
    simp only [dispatch, mint, wp_bind, wp_ensureSigned]
    exact ⟨fun _ _ => mintFree_spec h .., fun _ => trivial⟩
  | burn assetId toAccount amount =>
    simp only [dispatch, burn, wp_bind, wp_ensureSigned]
    exact ⟨fun _ _ => burnFree_spec h .., fun _ => trivial⟩
  | createReserved assetId options =>
    simp only [dispatch, createReserved, wp_bind, wp_ensureRoot]
    exact ⟨fun _ => createAsset_spec h .., fun _ => trivial⟩

end Operations

end GenericAsset

end MoneyPool
