import MoneyPool.GenericAsset.Locks

/-!
# Frozen assets

An asset is frozen if nobody may mint it or change its permissions
(`MoneyPool.GenericAsset.Store.Frozen`). That it stays so is not a matter of the permission
checks alone: creating an asset overwrites an issuance and the permissions, and therefore
must never hit an asset that exists. It does not, because the ids that are in use are below
the counter (`MoneyPool.GenericAsset.Store.IdsInUse`).

What an operation can do to issuances and permissions is
`MoneyPool.GenericAsset.IssueEffect`; both invariants are read off it.
-/

namespace MoneyPool

namespace GenericAsset

open Pallet Pallet.Exec

variable {AccountId : Type} [DecidableEq AccountId] [Inhabited AccountId] {β : Build}
  {twox64 : List UInt8 → LockIdentifier}

/-! ### What an operation does to the assets -/

/-- The assets are what they were. -/
structure Store.SameAssets (s t : Store AccountId) : Prop where
  totalIssuance : t.totalIssuance = s.totalIssuance
  permissions : t.permissions = s.permissions
  symbols : t.symbols = s.symbols
  nextAssetId : t.nextAssetId = s.nextAssetId

/-- An id under which an asset can be created: one that is not issued, or the next
available one. -/
def Store.Takes (s : Store AccountId) (assetId : AssetId) : Prop :=
  s.totalIssuance.containsKey assetId = false ∨ assetId = s.nextAssetId

/-- **What an operation does to the assets**, after its checks have passed. -/
inductive IssueEffect (s s' : Store AccountId) : Prop
  /-- The assets are left alone. -/
  | same (h : s.SameAssets s')
  /-- An asset that may be minted gets a new issuance. -/
  | minted (assetId : AssetId) (issuance : Balance)
      (allowed : (s.permissions.get assetId).latest.mint ≠ .none)
      (h : Store.SameAssets
        { s with totalIssuance := s.totalIssuance.insert assetId issuance } s')
  /-- The issuance of an asset that may be burnt falls. -/
  | burnt (assetId : AssetId) (issuance : Balance)
      (allowed : (s.permissions.get assetId).latest.burn ≠ .none)
      (falls : issuance ≤ s.totalIssuance.get assetId)
      (h : Store.SameAssets
        { s with totalIssuance := s.totalIssuance.insert assetId issuance } s')
  /-- The permissions of an asset change. -/
  | permitted (assetId : AssetId) (permissions : PermissionVersions AccountId)
      (allowed : (s.permissions.get assetId).latest.update ≠ .none)
      (h : Store.SameAssets { s with permissions := s.permissions.insert assetId permissions } s')
  /-- An asset is created, and may be registered. -/
  | created (assetId : AssetId) (issuance : Balance) (permissions : PermissionVersions AccountId)
      (symbols : StorageMap AssetId StrBytes) (nextAssetId : AssetId) (taken : s.Takes assetId)
      (below : assetId < nextAssetId) (grows : s.nextAssetId ≤ nextAssetId)
      (registers : symbols = s.symbols ∨ ∃ symbol, symbols = s.symbols.insert assetId symbol)
      (h : Store.SameAssets
        { s with
          totalIssuance := s.totalIssuance.insert assetId issuance
          permissions := s.permissions.insert assetId permissions
          symbols := symbols
          nextAssetId := nextAssetId } s')

section Effect

variable {s s' : Store AccountId} {op : Op AccountId} {assetId : AssetId} {who : AccountId}

omit [DecidableEq AccountId] [Inhabited AccountId] in
theorem Store.SameAssets.refl (s : Store AccountId) : s.SameAssets s := ⟨rfl, rfl, rfl, rfl⟩

/-- Who has a permission. -/
def PermissionsV1.owner (permissions : PermissionsV1 AccountId) : PermissionType → Owner AccountId
  | .burn => permissions.burn
  | .mint => permissions.mint
  | .update => permissions.update

omit [Inhabited AccountId] in
/-- A permission that nobody has, nobody passes the check for. -/
theorem owner_ne_none {what : PermissionType} (h : s.checkPermission assetId who what = true) :
    (s.permissions.get assetId).latest.owner what ≠ .none := by
  intro hnone
  unfold Store.checkPermission at h
  rcases hp : (s.permissions.get assetId).latest with ⟨update, mint, burn⟩
  rw [hp] at h hnone
  cases what with
  | burn =>
    obtain rfl : burn = .none := hnone
    cases h
  | mint =>
    obtain rfl : mint = .none := hnone
    cases h
  | update =>
    obtain rfl : update = .none := hnone
    cases h

/-- What creating an asset does. -/
theorem createAsset_effect {Q : Unit → Store AccountId → Prop}
    {E : DispatchError → Store AccountId → Prop} {choice : Option AssetId}
    {fromAccount : Option AccountId} {options : AssetOptions AccountId}
    (hok : ∀ assetId nextAssetId freeBalance, s.Takes assetId → assetId < nextAssetId →
      s.nextAssetId ≤ nextAssetId → (choice = none → assetId = s.nextAssetId) →
      (∀ id, choice = some id → assetId = id) →
      Q () { s with
        totalIssuance := s.totalIssuance.insert assetId options.initialIssuance
        freeBalance := freeBalance
        permissions := s.permissions.insert assetId (.v1 options.permissions)
        nextAssetId := nextAssetId })
    (herr : ∀ e, E e s) :
    wp (createAsset choice fromAccount options : Prog β AccountId Unit) Q E False s := by
  cases choice with
  | some id =>
    simp only [createAsset, takeAssetId, wp_bind, wp_gets, wp_ensure, wp_pure, wp_modify]
    refine ⟨fun hfree => ⟨fun hbelow => ?_, fun _ => herr _⟩, fun _ => herr _⟩
    exact hok id s.nextAssetId _ (Or.inl hfree) hbelow (BitVec.le_refl _)
      (fun h => absurd h (Option.some_ne_none id)) fun _ h => Option.some.inj h
  | none =>
    simp only [createAsset, takeAssetId, wp_bind, wp_gets, wp_okOr_checkedAdd, wp_modify, wp_pure]
    refine ⟨fun _ => herr _, fun hroom => ?_⟩
    have hlt : s.nextAssetId < s.nextAssetId + 1 := by
      rw [BitVec.lt_def, BitVec.toNat_add_of_lt hroom]
      exact Nat.lt_add_one _
    exact hok s.nextAssetId (s.nextAssetId + 1) _ (Or.inr rfl) hlt (BitVec.le_of_lt hlt)
      (fun _ => rfl) fun id h => absurd h.symm (Option.some_ne_none id)

/-- **The list of effects is complete** for the calls. -/
theorem dispatch_issueEffect (key : AccountId) (origin : Origin AccountId)
    (call : Call AccountId) :
    wp (dispatch key origin call : Prog β AccountId Unit) (fun _ t => IssueEffect s t)
      (fun _ t => IssueEffect s t) True s := by
  have hsame : IssueEffect s s := .same (.refl s)
  cases call with
  | create initialIssuance symbol =>
    simp only [dispatch, create, wp_bind, wp_ensureRoot, wp_gets, wp_modify]
    refine ⟨fun _ => ?_, fun _ => hsame⟩
    refine wp_mono (createAsset_effect (E := fun _ t => IssueEffect s t) ?_ fun _ => hsame)
      (fun _ _ h => h) (fun _ _ h => h) False.elim
    intro assetId nextAssetId _ htaken hbelow hgrows hnext _
    -- the symbol is written under the id that was read before
    rw [hnext rfl] at htaken hbelow ⊢
    exact .created s.nextAssetId initialIssuance _ _ nextAssetId htaken hbelow hgrows
      (Or.inr ⟨symbol, rfl⟩) ⟨rfl, rfl, rfl, rfl⟩
  | transfer assetId toAccount amount =>
    simp only [dispatch, transfer, makeTransferWithEvent, wp_bind, wp_ensureSigned, wp_ensure,
      wp_makeTransfer]
    refine ⟨fun who _ => ⟨fun _ => ⟨fun _ => ⟨fun _ => trivial, fun _ => ?_⟩, fun _ => hsame⟩,
      fun _ => hsame⟩, fun _ => hsame⟩
    unfold Store.moved
    split
    · exact hsame
    · exact .same ⟨rfl, rfl, rfl, rfl⟩
  | updatePermission assetId newPermission =>
    simp only [dispatch, updatePermission, wp_bind, wp_ensureSigned, wp_gets, wp_ensure, wp_modify]
    refine ⟨fun _ _ => ⟨fun hcheck => ?_, fun _ => hsame⟩, fun _ => hsame⟩
    exact .permitted assetId _ (owner_ne_none hcheck) ⟨rfl, rfl, rfl, rfl⟩
  | mint assetId toAccount amount =>
    simp only [dispatch, mint, mintFree, wp_bind, wp_ensureSigned, wp_gets, wp_ensure,
      wp_okOr_checkedAdd, wp_modify]
    refine ⟨fun _ _ => ⟨fun hcheck => ⟨fun _ => hsame, fun _ => ⟨fun _ => hsame, fun _ => ?_⟩⟩,
      fun _ => hsame⟩, fun _ => hsame⟩
    exact .minted assetId _ (owner_ne_none hcheck) ⟨rfl, rfl, rfl, rfl⟩
  | burn assetId toAccount amount =>
    simp only [dispatch, burn, burnFree, wp_bind, wp_ensureSigned, wp_gets, wp_ensure,
      wp_okOr_checkedSub, wp_modify]
    refine ⟨fun _ _ => ⟨fun hcheck => ⟨fun _ => hsame, fun hle => ⟨fun _ => hsame,
      fun _ => ?_⟩⟩, fun _ => hsame⟩, fun _ => hsame⟩
    have hfalls : s.totalIssuance.get assetId - amount ≤ s.totalIssuance.get assetId := by
      rw [BitVec.le_def, BitVec.toNat_sub_of_le (BitVec.le_def.mpr hle)]
      exact Nat.sub_le _ _
    exact .burnt assetId _ (owner_ne_none hcheck) hfalls ⟨rfl, rfl, rfl, rfl⟩
  | createReserved assetId options =>
    simp only [dispatch, createReserved, wp_bind, wp_ensureRoot]
    refine ⟨fun _ => ?_, fun _ => hsame⟩
    refine wp_mono (createAsset_effect (E := fun _ t => IssueEffect s t) ?_ fun _ => hsame)
      (fun _ _ h => h) (fun _ _ h => h) False.elim
    intro assetId nextAssetId _ htaken hbelow hgrows _ _
    exact .created assetId options.initialIssuance _ _ nextAssetId htaken hbelow hgrows
      (Or.inl rfl) ⟨rfl, rfl, rfl, rfl⟩

/-- **The list of effects is complete.** -/
theorem nextLedger_issueEffect (h : nextLedger β twox64 op s = some s') : IssueEffect s s' := by
  have hsame : IssueEffect s s := .same (.refl s)
  refine nextLedger_of_wp ?_ hsame h
  cases op with
  | extrinsic key origin call => exact dispatch_issueEffect key origin call
  | reserve assetId who amount =>
    rw [Op.exec, wp_bind, wp_reserve]
    exact ⟨fun _ => ⟨fun _ => trivial, fun _ => .same ⟨rfl, rfl, rfl, rfl⟩⟩, fun _ => hsame⟩
  | unreserve assetId who amount choice =>
    rw [Op.exec, wp_unreserve]
    refine ⟨fun _ => ⟨fun lockId _ => ⟨fun _ => trivial, fun _ => ?_⟩, fun _ => hsame⟩,
      fun _ => hsame⟩
    exact .same ⟨rfl, rfl, rfl, rfl⟩

end Effect

/-! ### The ids that are in use -/

/-- **The ids in use are below the counter**, and what is registered is issued. -/
structure Store.IdsInUse (s : Store AccountId) : Prop where
  below : ∀ assetId, s.totalIssuance.containsKey assetId = true → assetId < s.nextAssetId
  permitted : ∀ assetId, s.permissions.containsKey assetId = true →
    s.totalIssuance.containsKey assetId = true
  registered : ∀ assetId, s.assetIdExists assetId = true →
    s.totalIssuance.containsKey assetId = true

/-- An asset exists: it is issued or registered. -/
def Store.Exists (s : Store AccountId) (assetId : AssetId) : Prop :=
  s.totalIssuance.containsKey assetId = true ∨ s.assetIdExists assetId = true

section IdsInUse

variable {s s' t : Store AccountId} {assetId : AssetId}

omit [DecidableEq AccountId] [Inhabited AccountId] in
theorem Store.IdsInUse.issued (h : s.IdsInUse) (hexists : s.Exists assetId) :
    s.totalIssuance.containsKey assetId = true :=
  hexists.elim id (h.registered assetId)

omit [DecidableEq AccountId] [Inhabited AccountId] in
/-- An id under which an asset can be created, is not in use. -/
theorem Store.IdsInUse.not_taken (h : s.IdsInUse) (htaken : s.Takes assetId) :
    ¬s.totalIssuance.containsKey assetId = true := by
  rintro hkey
  rcases htaken with hfree | rfl
  · rw [hfree] at hkey
    cases hkey
  · exact BitVec.lt_irrefl _ (h.below _ hkey)

omit [DecidableEq AccountId] [Inhabited AccountId] in
/-- What somebody has a permission for, is issued. -/
theorem Store.IdsInUse.issued_of_owner (h : s.IdsInUse) (what : PermissionType)
    (hne : (s.permissions.get assetId).latest.owner what ≠ .none) :
    s.totalIssuance.containsKey assetId = true := by
  refine h.permitted assetId ?_
  by_contra hkey
  rw [StorageMap.get_of_not_containsKey hkey] at hne
  cases what <;> exact hne rfl

omit [DecidableEq AccountId] [Inhabited AccountId] in
/-- The ids in use are those of the assets. -/
theorem Store.IdsInUse.of_same (h : t.IdsInUse) (hsame : t.SameAssets s') : s'.IdsInUse := by
  refine ⟨fun assetId hkey => ?_, fun assetId hkey => ?_, fun assetId hkey => ?_⟩
  · rw [hsame.totalIssuance] at hkey
    rw [hsame.nextAssetId]
    exact h.below assetId hkey
  · rw [hsame.permissions] at hkey
    rw [hsame.totalIssuance]
    exact h.permitted assetId hkey
  · rw [assetIdExists, hsame.symbols] at hkey
    rw [hsame.totalIssuance]
    exact h.registered assetId hkey

omit [DecidableEq AccountId] [Inhabited AccountId] in
/-- An issuance may be written under an id that is in use. -/
theorem Store.IdsInUse.issue (h : s.IdsInUse) (hissued : s.totalIssuance.containsKey assetId = true)
    (issuance : Balance) :
    Store.IdsInUse { s with totalIssuance := s.totalIssuance.insert assetId issuance } := by
  refine ⟨fun asset' hkey => ?_, fun asset' hkey => ?_, fun asset' hkey => ?_⟩
  · rcases StorageMap.containsKey_insert.mp hkey with rfl | hkey
    · exact h.below asset' hissued
    · exact h.below asset' hkey
  · exact StorageMap.containsKey_insert.mpr (Or.inr (h.permitted asset' hkey))
  · exact StorageMap.containsKey_insert.mpr (Or.inr (h.registered asset' hkey))

omit [DecidableEq AccountId] [Inhabited AccountId] in
/-- **The ids in use stay below the counter.** -/
theorem IssueEffect.idsInUse (heff : IssueEffect s s') (h : s.IdsInUse) : s'.IdsInUse := by
  cases heff with
  | same hsame => exact h.of_same hsame
  | minted assetId issuance hallowed hsame =>
    exact (h.issue (h.issued_of_owner .mint hallowed) issuance).of_same hsame
  | burnt assetId issuance hallowed _ hsame =>
    exact (h.issue (h.issued_of_owner .burn hallowed) issuance).of_same hsame
  | permitted assetId permissions hallowed hsame =>
    have hissued := h.issued_of_owner .update hallowed
    refine .of_same (t := { s with permissions := s.permissions.insert assetId permissions })
      ⟨h.below, fun asset' hkey => ?_, h.registered⟩ hsame
    rcases StorageMap.containsKey_insert.mp hkey with rfl | hkey
    · exact hissued
    · exact h.permitted asset' hkey
  | created assetId issuance permissions symbols nextAssetId _ hbelow hgrows hregisters hsame =>
    refine Store.IdsInUse.of_same ⟨fun asset' hkey => ?_, fun asset' hkey => ?_,
      fun asset' hkey => ?_⟩ hsame
    · rcases StorageMap.containsKey_insert.mp hkey with rfl | hkey
      · exact hbelow
      · exact Nat.lt_of_lt_of_le (h.below asset' hkey) hgrows
    · refine StorageMap.containsKey_insert.mpr ?_
      exact (StorageMap.containsKey_insert.mp hkey).imp_right (h.permitted asset')
    · refine StorageMap.containsKey_insert.mpr ?_
      rcases hregisters with rfl | ⟨symbol, rfl⟩
      · exact Or.inr (h.registered asset' hkey)
      · exact (StorageMap.containsKey_insert.mp hkey).imp_right (h.registered asset')

/-- **At genesis** the ids in use are below the counter, if those of the issued assets are. -/
theorem GenesisConfig.build_idsInUse (config : GenesisConfig AccountId)
    (hids : ∀ assetId ∈ config.assets, assetId < config.nextAssetId) (key : AccountId) :
    wp (config.build key : Prog β AccountId Unit) (fun _ t => t.IdsInUse) (fun _ _ => False) True
      .empty := by
  simp only [build, wp_bind, wp_mul, forEach_modify, wp_modify]
  refine ⟨fun _ => trivial, fun _ => ?_⟩
  change wp _ _ _ _ config.endowedStore
  obtain ⟨m, hm⟩ := endowed_eq config.notedStore config.assets config.endowedAccounts
    config.initialBalance
  have hstart : (∀ assetId, config.endowedStore.totalIssuance.containsKey assetId = true →
        assetId < config.endowedStore.nextAssetId) ∧
      (∀ assetId, config.endowedStore.permissions.containsKey assetId = true →
        config.endowedStore.totalIssuance.containsKey assetId = true) ∧
      config.endowedStore.symbols = config.notedStore.symbols := by
    rw [endowedStore, hm]
    refine ⟨fun assetId hkey => hids assetId ?_, fun assetId hkey => ?_, rfl⟩
    · rw [StorageMap.containsKey, get?_notedStore] at hkey
      by_contra hnot
      rw [if_neg hnot] at hkey
      cases hkey
    · cases hkey
  -- the symbols are written before the loop, and the loop issues what they register
  refine wp_mono (wp_and (wp_forEach (fun t : Store AccountId =>
      (∀ assetId, t.totalIssuance.containsKey assetId = true → assetId < t.nextAssetId) ∧
      (∀ assetId, t.permissions.containsKey assetId = true →
        t.totalIssuance.containsKey assetId = true) ∧
      t.symbols = config.notedStore.symbols) (E := fun _ _ => False) (P := True)
      (fun i _ t ht => ?_) hstart)
    (wp_forEach_done (fun i (t : Store AccountId) => t.totalIssuance.containsKey i.1 = true)
      (E := fun _ _ => False) (P := True) (fun i _ j t ht => ?_) fun i _ t => ?_))
    (fun _ t ht => ?_) (fun _ _ h => h.1) fun _ => trivial
  · rw [wp_expectOk]
    refine wp_mono (createAsset_effect (E := fun _ _ => True) ?_ fun _ => trivial)
      (fun _ _ h => h) (fun _ _ h => h) False.elim
    intro assetId nextAssetId _ _ hbelow hgrows _ _
    obtain ⟨hgiven, hpermitted, hsymbols⟩ := ht
    refine ⟨fun asset' hkey => ?_, fun asset' hkey => ?_, hsymbols⟩
    · rcases StorageMap.containsKey_insert.mp hkey with rfl | hkey
      · exact hbelow
      · exact Nat.lt_of_lt_of_le (hgiven asset' hkey) hgrows
    · refine StorageMap.containsKey_insert.mpr ?_
      exact (StorageMap.containsKey_insert.mp hkey).imp_right (hpermitted asset')
  · rw [wp_expectOk]
    refine wp_mono (createAsset_effect (E := fun _ _ => True) ?_ fun _ => trivial)
      (fun _ _ h => h) (fun _ _ h => h) False.elim
    intro assetId nextAssetId _ _ _ _ _ _
    exact StorageMap.containsKey_insert.mpr (Or.inr ht)
  · rw [wp_expectOk]
    refine wp_mono (createAsset_effect (E := fun _ _ => True) ?_ fun _ => trivial)
      (fun _ _ h => h) (fun _ _ h => h) False.elim
    intro assetId nextAssetId _ _ _ _ _ hsome
    exact StorageMap.containsKey_insert.mpr (Or.inl (hsome i.1 rfl).symm)
  · obtain ⟨⟨hgiven, hpermitted, hsymbols⟩, hdone⟩ := ht
    refine ⟨hgiven, hpermitted, fun assetId hkey => ?_⟩
    rw [Store.assetIdExists, hsymbols] at hkey
    rcases StorageMap.containsKey_foldl_insert.mp hkey with hmem | hempty
    · obtain ⟨e, he, rfl⟩ := List.mem_map.mp hmem
      exact hdone e he
    · cases hempty

end IdsInUse

/-! ### Frozen assets -/

/-- **An asset is frozen**: nobody may change its permissions, and nobody may mint it. -/
structure Store.Frozen (s : Store AccountId) (assetId : AssetId) : Prop where
  update : (s.permissions.get assetId).latest.update = .none
  mint : (s.permissions.get assetId).latest.mint = .none

instance (s : Store AccountId) (assetId : AssetId) :
    Decidable (s.Frozen assetId) :=
  decidable_of_iff ((s.permissions.get assetId).latest.update = .none ∧
    (s.permissions.get assetId).latest.mint = .none) ⟨fun h => ⟨h.1, h.2⟩, fun h => ⟨h.1, h.2⟩⟩

/-- The permissions of an asset stay, and its issuance does not rise. -/
structure Store.KeepsAsset (s t : Store AccountId) (assetId : AssetId) : Prop where
  permissions : t.permissions.get? assetId = s.permissions.get? assetId
  totalIssuance : t.totalIssuance.get assetId ≤ s.totalIssuance.get assetId

section Frozen

variable {s s' t u : Store AccountId} {assetId : AssetId}

omit [DecidableEq AccountId] [Inhabited AccountId] in
theorem Store.KeepsAsset.trans (h : s.KeepsAsset t assetId) (h' : t.KeepsAsset u assetId) :
    s.KeepsAsset u assetId :=
  ⟨h'.permissions.trans h.permissions, BitVec.le_trans h'.totalIssuance h.totalIssuance⟩

omit [DecidableEq AccountId] [Inhabited AccountId] in
theorem Store.SameAssets.keepsAsset (h : t.SameAssets s') (hkeeps : s.KeepsAsset t assetId) :
    s.KeepsAsset s' assetId := by
  refine ⟨?_, ?_⟩
  · rw [h.permissions, hkeeps.permissions]
  · rw [h.totalIssuance]
    exact hkeeps.totalIssuance

omit [DecidableEq AccountId] [Inhabited AccountId] in
/-- What is frozen, stays frozen as long as its permissions stay. -/
theorem Store.KeepsAsset.frozen (h : s.KeepsAsset t assetId) (hfrozen : s.Frozen assetId) :
    t.Frozen assetId := by
  have hget : t.permissions.get assetId = s.permissions.get assetId := by
    rw [StorageMap.get, h.permissions, StorageMap.get]
  constructor
  · rw [hget, hfrozen.update]
  · rw [hget, hfrozen.mint]

omit [DecidableEq AccountId] [Inhabited AccountId] in
/-- **No operation touches a frozen asset**, but to burn it. -/
theorem IssueEffect.keepsAsset (heff : IssueEffect s s') (h : s.IdsInUse)
    (hissued : s.totalIssuance.containsKey assetId = true) (hfrozen : s.Frozen assetId) :
    s.KeepsAsset s' assetId := by
  have hle : s.totalIssuance.get assetId ≤ s.totalIssuance.get assetId := BitVec.le_refl _
  cases heff with
  | same hsame => exact hsame.keepsAsset ⟨rfl, hle⟩
  | minted asset' issuance hallowed hsame =>
    have hne : assetId ≠ asset' := by
      rintro rfl
      exact hallowed hfrozen.mint
    refine hsame.keepsAsset ⟨rfl, ?_⟩
    rw [StorageMap.get_insert, if_neg hne]
    exact hle
  | burnt asset' issuance _ hfalls hsame =>
    refine hsame.keepsAsset ⟨rfl, ?_⟩
    rw [StorageMap.get_insert]
    split
    · rename_i heq
      exact heq ▸ hfalls
    · exact hle
  | permitted asset' permissions hallowed hsame =>
    have hne : assetId ≠ asset' := by
      rintro rfl
      exact hallowed hfrozen.update
    refine hsame.keepsAsset ⟨?_, hle⟩
    rw [StorageMap.get?_insert, if_neg hne]
  | created asset' issuance permissions symbols nextAssetId htaken _ _ _ hsame =>
    -- an id that is handed out was not in use
    have hne : assetId ≠ asset' := by
      rintro rfl
      exact h.not_taken htaken hissued
    refine hsame.keepsAsset ⟨?_, ?_⟩
    · rw [StorageMap.get?_insert, if_neg hne]
    · rw [StorageMap.get_insert, if_neg hne]
      exact hle

omit [DecidableEq AccountId] [Inhabited AccountId] in
/-- What is issued stays issued. -/
theorem IssueEffect.containsKey (heff : IssueEffect s s')
    (hissued : s.totalIssuance.containsKey assetId = true) :
    s'.totalIssuance.containsKey assetId = true := by
  cases heff with
  | same hsame =>
    rw [hsame.totalIssuance]
    exact hissued
  | minted _ _ _ hsame =>
    rw [hsame.totalIssuance]
    exact StorageMap.containsKey_insert.mpr (Or.inr hissued)
  | burnt _ _ _ _ hsame =>
    rw [hsame.totalIssuance]
    exact StorageMap.containsKey_insert.mpr (Or.inr hissued)
  | permitted _ _ _ hsame =>
    rw [hsame.totalIssuance]
    exact hissued
  | created _ _ _ _ _ _ _ _ _ hsame =>
    rw [hsame.totalIssuance]
    exact StorageMap.containsKey_insert.mpr (Or.inr hissued)

/-- **A frozen asset is kept** along every run. -/
theorem keepsAsset_of_reachable (h : s.IdsInUse)
    (hissued : s.totalIssuance.containsKey assetId = true) (hfrozen : s.Frozen assetId)
    (hreach : Reachable (nextLedger β twox64) s t) :
    t.IdsInUse ∧ t.totalIssuance.containsKey assetId = true ∧ s.KeepsAsset t assetId := by
  refine hreach.invariant (I := fun t => t.IdsInUse ∧ t.totalIssuance.containsKey assetId = true ∧
    s.KeepsAsset t assetId) ⟨h, hissued, ⟨rfl, BitVec.le_refl _⟩⟩ ?_
  rintro t _ t' ⟨hids, hissued', hkeeps⟩ - hnext
  have heff := nextLedger_issueEffect hnext
  exact ⟨heff.idsInUse hids, heff.containsKey hissued',
    hkeeps.trans (heff.keepsAsset hids hissued' (hkeeps.frozen hfrozen))⟩

/-- **Frozen supply.** From a genesis whose issued ids are below the counter, once an asset
that exists is frozen, no run ever changes its permissions or lets its issuance rise. -/
theorem frozen_supply {config : GenesisConfig AccountId} {key : AccountId}
    {s₀ s t t' : Store AccountId} {assetId : AssetId}
    (hids : ∀ assetId ∈ config.assets, assetId < config.nextAssetId)
    (hgenesis : (config.build key : Prog β AccountId Unit) .empty = .ok () s₀)
    (hreach : Reachable (nextLedger β twox64) s₀ s) (hexists : s.Exists assetId)
    (hfrozen : s.Frozen assetId) (hrun : Reachable (nextLedger β twox64) s t)
    (hrun' : Reachable (nextLedger β twox64) t t') :
    t'.permissions.get? assetId = s.permissions.get? assetId ∧
      t'.totalIssuance.get assetId ≤ t.totalIssuance.get assetId := by
  have hinit : s₀.IdsInUse := (wp_of_ok hgenesis).mp (config.build_idsInUse hids key)
  have huse : s.IdsInUse := hreach.invariant (I := fun s => s.IdsInUse) hinit
    fun _ _ _ hs _ hnext => (nextLedger_issueEffect hnext).idsInUse hs
  obtain ⟨huse', hissued, hkeeps⟩ :=
    keepsAsset_of_reachable huse (huse.issued hexists) hfrozen hrun
  obtain ⟨-, -, hkeeps'⟩ :=
    keepsAsset_of_reachable huse' hissued (hkeeps.frozen hfrozen) hrun'
  exact ⟨hkeeps'.permissions.trans hkeeps.permissions, hkeeps'.totalIssuance⟩

theorem frozen_supply_example :
    ∃ s t, run (nextLedger .release Twox.twox64) [.extrinsic 1 .root (.create 100 []),
        .extrinsic 1 (.signed 1) (.updatePermission 5 ⟨.none, .none, .address 1⟩)]
        exampleState.assets = some s ∧
      run (nextLedger .release Twox.twox64) [.extrinsic 1 (.signed 1) (.burn 5 1 30)] s = some t ∧
      s.totalIssuance.get 5 = 100 ∧ t.totalIssuance.get 5 = 70 ∧
      ∀ t', Reachable (nextLedger .release Twox.twox64) t t' →
        t'.permissions.get? 5 = s.permissions.get? 5 ∧
          t'.totalIssuance.get 5 ≤ t.totalIssuance.get 5 := by
  obtain ⟨s, hrun, hissued, hkey, hfrozen, t, hburn, hfalls⟩ := exists_of_any
    (p := fun s : Store ℕ => s.totalIssuance.get 5 = 100 ∧
      s.totalIssuance.containsKey 5 = true ∧ s.Frozen 5 ∧
      ∃ t, run (nextLedger .release Twox.twox64) [.extrinsic 1 (.signed 1) (.burn 5 1 30)] s =
        some t ∧ t.totalIssuance.get 5 = 70)
    (o := run (nextLedger .release Twox.twox64) [.extrinsic 1 .root (.create 100 []),
      .extrinsic 1 (.signed 1) (.updatePermission 5 ⟨.none, .none, .address 1⟩)]
      exampleState.assets) (by decide +kernel)
  have hids : ∀ assetId ∈ exampleConfig.genericAsset.assets,
      assetId < exampleConfig.genericAsset.nextAssetId := by
    simp [exampleConfig]
  have hgenesis := MoneyPool.GenesisConfig.assets_of_build exampleConfig_build
  exact ⟨s, t, hrun, hburn, hissued, hfalls, fun t' hreach => frozen_supply hids hgenesis
    (reachable_of_run hrun) (Or.inl hkey) hfrozen (reachable_of_run hburn) hreach⟩

end Frozen

end GenericAsset

end MoneyPool
