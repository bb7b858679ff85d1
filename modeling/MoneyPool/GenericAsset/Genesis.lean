import MoneyPool.GenericAsset.Books

/-!
# The books at genesis

The genesis storage notes down an issuance for every asset and hands out the
endowments one by one. The issuance is computed from the number of accounts, cast
to a `u32`: what the cast forgets is the surplus
(`MoneyPool.GenericAsset.GenesisConfig.surplus`) with which the books start
(`MoneyPool.GenericAsset.GenesisConfig.build_spec`).
-/

namespace MoneyPool

namespace GenericAsset

open Pallet Pallet.Exec

variable {AccountId : Type} [DecidableEq AccountId] {β : Build}

/-! ### Endowments -/

/-- The ledger after accounts were endowed with some assets. -/
def Store.endowed (s : Store AccountId) (assets : List AssetId) (accounts : List AccountId)
    (balance : Balance) : Store AccountId :=
  assets.foldl (fun s assetId =>
    accounts.foldl (fun s accountId => s.setFree assetId accountId balance) s) s

/-- Endowing writes free balances only. -/
theorem endowed_eq (s : Store AccountId) (assets : List AssetId) (accounts : List AccountId)
    (balance : Balance) :
    ∃ m, s.endowed assets accounts balance = { s with freeBalance := m } := by
  have hrow : ∀ (s : Store AccountId) assetId, ∃ m,
      accounts.foldl (fun s accountId => s.setFree assetId accountId balance) s =
        { s with freeBalance := m } := by
    intro s assetId
    induction accounts generalizing s with
    | nil => exact ⟨_, rfl⟩
    | cons who accounts ih =>
      obtain ⟨m, hm⟩ := ih (s.setFree assetId who balance)
      exact ⟨m, hm⟩
  induction assets generalizing s with
  | nil => exact ⟨_, rfl⟩
  | cons assetId assets ih =>
    obtain ⟨m, hm⟩ := hrow s assetId
    obtain ⟨m', hm'⟩ := ih { s with freeBalance := m }
    refine ⟨m', ?_⟩
    rw [Store.endowed, List.foldl_cons, hm]
    exact hm'

/-- Who is endowed, has the endowment. -/
theorem free_endowed (s : Store AccountId) (assets : List AssetId) (accounts : List AccountId)
    (balance : Balance) (assetId : AssetId) (who : AccountId) :
    (s.endowed assets accounts balance).free assetId who =
      if assetId ∈ assets ∧ who ∈ accounts then balance else s.free assetId who := by
  have hrow : ∀ (s : Store AccountId) asset',
      (accounts.foldl (fun s accountId => s.setFree asset' accountId balance) s).free assetId who =
        if assetId = asset' ∧ who ∈ accounts then balance else s.free assetId who := by
    intro s asset'
    induction accounts generalizing s with
    | nil => simp
    | cons who' accounts ih =>
      rw [List.foldl_cons, ih, Store.free_setFree]
      by_cases hasset : assetId = asset'
      · by_cases hwho : who = who' <;> simp [hasset, hwho]
      · simp [hasset]
  induction assets generalizing s with
  | nil => simp [Store.endowed]
  | cons asset' assets ih =>
    have htail := ih (accounts.foldl (fun s accountId => s.setFree asset' accountId balance) s)
    rw [Store.endowed] at htail
    rw [Store.endowed, List.foldl_cons, htail, hrow]
    by_cases hassets : assetId ∈ assets
    · by_cases hwho : who ∈ accounts <;> simp [hassets, hwho]
    · simp [hassets]

/-! ### The genesis storage -/

namespace GenesisConfig

variable {config : GenesisConfig AccountId}

/-- What the genesis storage hands out beyond the issuance it notes down: the
endowments of as many accounts as the cast of their number forgets. -/
def surplus (config : GenesisConfig AccountId) (assetId : AssetId) : ℕ :=
  if assetId ∈ config.assets then
    config.initialBalance.toNat *
      (config.endowedAccounts.length - config.endowedAccounts.length % 2 ^ 32)
  else 0

/-- The issuance that the genesis storage notes down. -/
def issuance (config : GenesisConfig AccountId) : Balance :=
  config.initialBalance * (BitVec.ofNat 32 config.endowedAccounts.length).setWidth 128

/-- The sum of a value over a list of different accounts. -/
theorem finsum_mem_list {accounts : List AccountId} (hnodup : accounts.Nodup) (n : ℕ) :
    ∑ᶠ who, (if who ∈ accounts then n else 0) = n * accounts.length := by
  have hsupp : Function.support (fun who => if who ∈ accounts then n else 0) ⊆
      (accounts.toFinset : Set AccountId) := by
    intro who hwho
    rw [Finset.mem_coe, List.mem_toFinset]
    by_contra hnot
    exact hwho (if_neg hnot)
  rw [finsum_eq_sum_of_support_subset _ hsupp]
  have hsum : ∑ who ∈ accounts.toFinset, (if who ∈ accounts then n else 0) =
      ∑ _who ∈ accounts.toFinset, n :=
    Finset.sum_congr rfl fun who hwho => if_pos (List.mem_toFinset.mp hwho)
  rw [hsum, Finset.sum_const, List.toFinset_card_of_nodup hnodup, smul_eq_mul, mul_comm]

omit [DecidableEq AccountId] in
theorem toNat_count : ((BitVec.ofNat 32 config.endowedAccounts.length).setWidth 128).toNat =
    config.endowedAccounts.length % 2 ^ 32 := by
  rw [BitVec.toNat_setWidth, BitVec.toNat_ofNat]
  exact Nat.mod_eq_of_lt ((Nat.mod_lt _ (by decide)).trans (by decide))

omit [DecidableEq AccountId] in
/-- The issuance can be computed, if the endowments fit. -/
theorem count_fits
    (hfits : config.initialBalance.toNat * config.endowedAccounts.length < 2 ^ 128) :
    config.initialBalance.toNat *
      ((BitVec.ofNat 32 config.endowedAccounts.length).setWidth 128).toNat < 2 ^ 128 := by
  rw [toNat_count]
  exact (Nat.mul_le_mul_left _ (Nat.mod_le _ _)).trans_lt hfits

omit [DecidableEq AccountId] in
/-- What is handed out, is the issuance and the surplus. -/
theorem issuance_add_surplus {assetId : AssetId} (h : assetId ∈ config.assets)
    (hfits : config.initialBalance.toNat * config.endowedAccounts.length < 2 ^ 128) :
    config.issuance.toNat + config.surplus assetId =
      config.initialBalance.toNat * config.endowedAccounts.length := by
  rw [issuance, BitVec.toNat_mul_of_lt (count_fits hfits), toNat_count, surplus, if_pos h,
    ← Nat.mul_add, Nat.add_sub_cancel' (Nat.mod_le _ _)]

/-- The storage with the issuances noted down. -/
def notedStore (config : GenesisConfig AccountId) : Store AccountId :=
  { (Store.empty : Store AccountId) with
    totalIssuance := config.assets.foldl (fun m id => m.insert id config.issuance) .empty
    symbols := config.symbols.foldl (fun m e => m.insert e.1 e.2) .empty
    nextAssetId := config.nextAssetId }

/-- The storage with the endowments handed out. -/
def endowedStore (config : GenesisConfig AccountId) : Store AccountId :=
  config.notedStore.endowed config.assets config.endowedAccounts config.initialBalance

omit [DecidableEq AccountId] in
theorem get?_notedStore (assetId : AssetId) :
    config.notedStore.totalIssuance.get? assetId =
      if assetId ∈ config.assets then some config.issuance else none :=
  StorageMap.get?_foldl_insert ..

theorem free_endowedStore (assetId : AssetId) (who : AccountId) :
    (config.endowedStore.free assetId who).toNat =
      if assetId ∈ config.assets then
        if who ∈ config.endowedAccounts then config.initialBalance.toNat else 0
      else 0 := by
  have hempty : config.notedStore.free assetId who = 0 := rfl
  rw [endowedStore, free_endowed, hempty]
  by_cases hasset : assetId ∈ config.assets
  · by_cases hwho : who ∈ config.endowedAccounts <;> simp [hasset, hwho]
  · simp [hasset]

/-- The endowed accounts hold the issuance and the surplus. -/
theorem held_endowedStore (hnodup : config.endowedAccounts.Nodup)
    (hfits : config.initialBalance.toNat * config.endowedAccounts.length < 2 ^ 128)
    (assetId : AssetId) :
    config.endowedStore.held assetId =
      (config.endowedStore.totalIssuance.get assetId).toNat + config.surplus assetId := by
  obtain ⟨m, hm⟩ := endowed_eq config.notedStore config.assets config.endowedAccounts
    config.initialBalance
  have hreserved : ∀ who, (config.endowedStore.reserved assetId who).toNat = 0 := by
    intro who
    rw [endowedStore, hm]
    rfl
  have hissued : config.endowedStore.totalIssuance.get assetId =
      if assetId ∈ config.assets then config.issuance else 0 := by
    rw [endowedStore, hm, StorageMap.get, get?_notedStore]
    split <;> rfl
  rw [held_eq_finsum, hissued]
  simp only [hreserved, free_endowedStore, add_zero]
  by_cases hasset : assetId ∈ config.assets
  · simp only [if_pos hasset]
    rw [finsum_mem_list hnodup, issuance_add_surplus hasset hfits]
  · simp only [if_neg hasset, surplus, finsum_zero]
    rfl

/-- **The genesis books** are in order, but for the surplus. -/
theorem books_endowedStore (hnodup : config.endowedAccounts.Nodup)
    (hids : ∀ assetId ∈ config.assets, assetId < config.nextAssetId)
    (hfits : config.initialBalance.toNat * config.endowedAccounts.length < 2 ^ 128) :
    config.endowedStore.Books config.surplus := by
  obtain ⟨m, hm⟩ := endowed_eq config.notedStore config.assets config.endowedAccounts
    config.initialBalance
  have hissued : ∀ assetId, config.endowedStore.totalIssuance.containsKey assetId = true ↔
      assetId ∈ config.assets := by
    intro assetId
    rw [endowedStore, hm, StorageMap.containsKey, get?_notedStore]
    split <;> simp_all
  refine ⟨held_endowedStore hnodup hfits, fun assetId hkey => ?_, fun assetId hkey => ?_,
    fun assetId hne => ?_⟩
  · rw [endowedStore, hm]
    exact hids assetId ((hissued assetId).mp hkey)
  · rw [endowedStore, hm] at hkey
    cases hkey
  · rw [hissued]
    by_contra hnot
    exact hne (if_neg hnot)

/-- The genesis storage has the genesis books; only the registration of the symbols
can keep it from being built. -/
theorem build_spec [Inhabited AccountId] (config : GenesisConfig AccountId)
    (hnodup : config.endowedAccounts.Nodup)
    (hids : ∀ assetId ∈ config.assets, assetId < config.nextAssetId)
    (hfits : config.initialBalance.toNat * config.endowedAccounts.length < 2 ^ 128)
    (key : AccountId) :
    wp (config.build key : Prog β AccountId Unit) (fun _ t => t.Books config.surplus)
      (fun _ _ => False) (config.symbols ≠ []) .empty := by
  simp only [build, wp_bind, wp_mul, forEach_modify, wp_modify]
  refine ⟨fun hno => (hno fun _ => count_fits hfits).elim, fun _ => ?_⟩
  refine wp_forEach (fun t => Store.Books t config.surplus) (fun i hi t ht => ?_)
    (books_endowedStore hnodup hids hfits)
  rw [wp_expectOk]
  exact wp_mono (createAsset_spec ht _ _ _) (fun _ _ h => h)
    (fun _ _ _ => List.ne_nil_of_mem hi) id

end GenesisConfig

end GenericAsset

end MoneyPool
