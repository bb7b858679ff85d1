import MoneyPool.Pallet.Simulation
import MoneyPool.GenericAsset.Frozen

/-!
# The life of an asset

What an asset is, its permissions and its issuance, is settled by four kinds of events: it is
created, minted, burnt, and given other permissions. `MoneyPool.GenericAsset.AssetEvent.next` is the
machine of these, in which nobody acts but who has the permission at the time. The ledger is
simulated by it, for every id at once (`MoneyPool.GenericAsset.ledger_simulates_asset`).

So every change of an asset after its creation goes back to its creator, by permissions that have
been handed on by those who had them, and its issuance is what it was created with and what has been
minted and burnt since, to the unit (`MoneyPool.GenericAsset.asset_life`).
-/

namespace MoneyPool

namespace GenericAsset

open Pallet Pallet.Exec

variable {AccountId : Type}

/-! ### The machine of an asset -/

/-- **What an asset is.** -/
structure Terms (AccountId : Type) where
  permissions : PermissionsV1 AccountId
  issuance : Balance

/-- **What happens to an asset.** -/
inductive AssetEvent (AccountId : Type) where
  | created (terms : Terms AccountId) : AssetEvent AccountId
  | minted (who : AccountId) (amount : Balance) : AssetEvent AccountId
  | burnt (who : AccountId) (amount : Balance) : AssetEvent AccountId
  | permitted (who : AccountId) (permissions : PermissionsV1 AccountId) : AssetEvent AccountId

/-- What is issued of an asset, which is nothing as long as there is none. -/
def issued (asset : Option (Terms AccountId)) : ℕ := asset.elim 0 fun terms => terms.issuance.toNat

namespace AssetEvent

/-- What an event issues. -/
def amountIssued : AssetEvent AccountId → ℕ
  | .created terms => terms.issuance.toNat
  | .minted _ amount => amount.toNat
  | _ => 0

/-- What an event burns. -/
def amountBurnt : AssetEvent AccountId → ℕ
  | .burnt _ amount => amount.toNat
  | _ => 0

variable [DecidableEq AccountId]

/-- **The machine of an asset**: who has a permission may use it, as long as the issuance is one. -/
def next : AssetEvent AccountId → Option (Terms AccountId) → Option (Option (Terms AccountId))
  | .created terms, none => some (some terms)
  | .minted who amount, some terms =>
    if terms.permissions.mint = .address who ∧ terms.issuance.toNat + amount.toNat < 2 ^ 128
    then some (some { terms with issuance := terms.issuance + amount }) else none
  | .burnt who amount, some terms =>
    if terms.permissions.burn = .address who ∧ amount ≤ terms.issuance
    then some (some { terms with issuance := terms.issuance - amount }) else none
  | .permitted who permissions, some terms =>
    if terms.permissions.update = .address who
    then some (some { terms with permissions := permissions }) else none
  | _, _ => none

/-- One event issues or burns its amount. -/
theorem issued_of_next {e : AssetEvent AccountId} {asset asset' : Option (Terms AccountId)}
    (h : e.next asset = some asset') :
    issued asset' + e.amountBurnt = issued asset + e.amountIssued := by
  cases asset with
  | none =>
    cases e with
    | created terms =>
      cases h
      exact (Nat.zero_add _).symm
    | _ => cases h
  | some terms =>
    cases e with
    | created => cases h
    | minted who amount =>
      obtain ⟨⟨-, hfits⟩, heq⟩ := Option.ite_none_right_eq_some.mp h
      cases heq
      exact BitVec.toNat_add_of_lt hfits
    | burnt who amount =>
      obtain ⟨⟨-, hle⟩, heq⟩ := Option.ite_none_right_eq_some.mp h
      cases heq
      have hsub := BitVec.toNat_sub_of_le hle
      have hnat := BitVec.le_def.mp hle
      show (terms.issuance - amount).toNat + amount.toNat = terms.issuance.toNat + 0
      omega
    | permitted who permissions =>
      obtain ⟨-, heq⟩ := Option.ite_none_right_eq_some.mp h
      cases heq
      rfl

/-- **The issuance adds up**, over all the events of an asset. -/
theorem issued_of_run {es : List (AssetEvent AccountId)} {asset asset' : Option (Terms AccountId)}
    (h : run next es asset = some asset') :
    issued asset' + (es.map amountBurnt).sum = issued asset + (es.map amountIssued).sum := by
  induction es generalizing asset with
  | nil =>
    cases h
    rfl
  | cons e es ih =>
    obtain ⟨asset₁, he, hes⟩ := Option.bind_eq_some_iff.mp h
    have hfirst := issued_of_next he
    have hrest := ih hes
    rw [List.map_cons, List.sum_cons, List.map_cons, List.sum_cons]
    omega

end AssetEvent

/-! ### What an operation means for an asset -/

/-- What the storage has of an asset. -/
def Store.terms (s : Store AccountId) (assetId : AssetId) : Option (Terms AccountId) :=
  (s.totalIssuance.get? assetId).map fun issuance =>
    { permissions := (s.permissions.get assetId).latest, issuance := issuance }

/-- What a call means for the asset under an id, if it succeeds. -/
def Call.assetMeaning (assetId : AssetId) (key : AccountId) (origin : Origin AccountId)
    (call : Call AccountId) (s : Store AccountId) : Option (AssetEvent AccountId) :=
  match origin, call with
  | .root, .create initialIssuance _ =>
    if s.nextAssetId = assetId then some (.created ⟨.all key, initialIssuance⟩) else none
  | .root, .createReserved id options =>
    if id = assetId then some (.created ⟨options.permissions, options.initialIssuance⟩) else none
  | .signed who, .mint id _ amount => if id = assetId then some (.minted who amount) else none
  | .signed who, .burn id _ amount => if id = assetId then some (.burnt who amount) else none
  | .signed who, .updatePermission id permissions =>
    if id = assetId then some (.permitted who permissions) else none
  | _, _ => none

variable [DecidableEq AccountId]

/-- **The terms of an asset become others** by an event, or stay. -/
def Store.Becomes (s : Store AccountId) (assetId : AssetId) (given : Option (AssetEvent AccountId))
    (t : Store AccountId) : Prop :=
  run AssetEvent.next given.toList (s.terms assetId) = some (t.terms assetId)

section Steps

variable {β : Build} {s t : Store AccountId} {assetId id : AssetId} {who : AccountId}
  {given : Option (AssetEvent AccountId)} {e : AssetEvent AccountId}

omit [DecidableEq AccountId] in
theorem Store.SameAssets.terms (h : s.SameAssets t) : t.terms assetId = s.terms assetId := by
  rw [Store.terms, h.totalIssuance, h.permissions, Store.terms]

theorem Store.Becomes.same (h : s.SameAssets t) : s.Becomes assetId none t :=
  congrArg some h.terms.symm

/-- **An asset is changed**, the one that is looked at or another one. -/
theorem Store.Becomes.write {terms : Terms AccountId}
    (hself : t.terms id = some terms) (hother : ∀ assetId, assetId ≠ id →
      t.terms assetId = s.terms assetId) (hstep : e.next (s.terms id) = some (some terms)) :
    s.Becomes assetId (if id = assetId then some e else none) t := by
  rcases eq_or_ne id assetId with rfl | hne
  · rw [if_pos rfl, Becomes, hself]
    exact run_singleton hstep
  · rw [if_neg hne, Becomes, hother assetId hne.symm]
    rfl

/-- Who passes the check has the permission. -/
theorem owner_of_checkPermission {what : PermissionType}
    (h : s.checkPermission assetId who what = true) :
    (s.permissions.get assetId).latest.owner what = .address who := by
  unfold Store.checkPermission at h
  rcases hp : (s.permissions.get assetId).latest with ⟨update, mint, burn⟩
  rw [hp] at h
  cases what with
  | burn =>
    cases burn with
    | none => cases h
    | address account => exact congrArg Owner.address (of_decide_eq_true h)
  | mint =>
    cases mint with
    | none => cases h
    | address account => exact congrArg Owner.address (of_decide_eq_true h)
  | update =>
    cases update with
    | none => cases h
    | address account => exact congrArg Owner.address (of_decide_eq_true h)

/-- What somebody has a permission for, is there. -/
theorem Store.IdsInUse.terms_of_owner [Inhabited AccountId] (h : s.IdsInUse)
    {what : PermissionType} (hcheck : s.checkPermission assetId who what = true) :
    s.terms assetId =
      some ⟨(s.permissions.get assetId).latest, s.totalIssuance.get assetId⟩ := by
  have hkey := h.issued_of_owner what (owner_ne_none hcheck)
  rw [Store.terms, StorageMap.get?_of_containsKey hkey]
  rfl

/-- **The issuance of an asset is written.** -/
theorem Store.Becomes.issued {issuance before : Balance}
    (hissuance : t.totalIssuance = s.totalIssuance.insert id issuance)
    (hperm : t.permissions = s.permissions)
    (hthere : s.terms id = some ⟨(s.permissions.get id).latest, before⟩)
    (hstep : e.next (some ⟨(s.permissions.get id).latest, before⟩) =
      some (some ⟨(s.permissions.get id).latest, issuance⟩)) :
    s.Becomes assetId (if id = assetId then some e else none) t := by
  have hself : t.terms id = some ⟨(s.permissions.get id).latest, issuance⟩ := by
    rw [Store.terms, hissuance, hperm, StorageMap.get?_insert, if_pos rfl]
    rfl
  refine .write hself (fun assetId hne => ?_) (hthere ▸ hstep)
  rw [Store.terms, hissuance, hperm, StorageMap.get?_insert, if_neg hne, Store.terms]

/-- **The permissions of an asset are written.** -/
theorem Store.Becomes.permitted {permissions : PermissionsV1 AccountId} {issuance : Balance}
    (hissuance : t.totalIssuance = s.totalIssuance)
    (hperm : t.permissions = s.permissions.insert id (.v1 permissions))
    (hthere : s.terms id = some ⟨(s.permissions.get id).latest, issuance⟩)
    (hstep : e.next (some ⟨(s.permissions.get id).latest, issuance⟩) =
      some (some ⟨permissions, issuance⟩)) :
    s.Becomes assetId (if id = assetId then some e else none) t := by
  have hissued : s.totalIssuance.get? id = some issuance := by
    obtain ⟨i, hi, heq⟩ := Option.map_eq_some_iff.mp hthere
    cases heq
    exact hi
  have hself : t.terms id = some ⟨permissions, issuance⟩ := by
    rw [Store.terms, hissuance, hperm, StorageMap.get_insert, if_pos rfl, hissued]
    rfl
  refine .write hself (fun assetId hne => ?_) (hthere ▸ hstep)
  rw [Store.terms, hissuance, hperm, StorageMap.get_insert, if_neg hne, Store.terms]

/-- **An asset is created.** -/
theorem Store.Becomes.created {permissions : PermissionsV1 AccountId} {issuance : Balance}
    (hids : s.IdsInUse) (htaken : s.Takes id)
    (hissuance : t.totalIssuance = s.totalIssuance.insert id issuance)
    (hperm : t.permissions = s.permissions.insert id (.v1 permissions)) :
    s.Becomes assetId (if id = assetId then some (.created ⟨permissions, issuance⟩) else none)
      t := by
  have hnone : s.terms id = none := by
    have hfree := hids.not_taken htaken
    rw [StorageMap.containsKey_iff_mem, ← StorageMap.get?_eq_none_iff] at hfree
    rw [Store.terms, hfree]
    rfl
  have hself : t.terms id = some ⟨permissions, issuance⟩ := by
    rw [Store.terms, hissuance, hperm, StorageMap.get?_insert, StorageMap.get_insert, if_pos rfl,
      if_pos rfl]
    rfl
  refine .write hself (fun assetId hne => ?_) ?_
  · rw [Store.terms, hissuance, hperm, StorageMap.get?_insert, StorageMap.get_insert, if_neg hne,
      if_neg hne, Store.terms]
  · rw [hnone]
    rfl

variable [Inhabited AccountId]

/-- **A call that succeeds** is an event of the asset, or leaves it as it is. -/
theorem dispatch_becomes (h : s.IdsInUse) (key : AccountId) (origin : Origin AccountId)
    (call : Call AccountId) (assetId : AssetId) :
    wp (dispatch key origin call : Prog β AccountId Unit)
      (fun _ t => s.Becomes assetId (call.assetMeaning assetId key origin s) t)
      (fun _ t => s.SameAssets t) True s := by
  have hfail : s.SameAssets s := .refl s
  cases call with
  | create initialIssuance symbol =>
    simp only [dispatch, create, wp_bind, wp_ensureRoot, wp_gets, wp_modify]
    refine ⟨?_, fun _ => hfail⟩
    rintro rfl
    refine wp_mono (createAsset_effect (E := fun _ t => s.SameAssets t) ?_ fun _ => hfail)
      (fun _ _ h => h) (fun _ _ h => h) False.elim
    intro id nextAssetId _ htaken _ _ hnext _
    obtain rfl := hnext rfl
    exact .created h htaken rfl rfl
  | transfer id toAccount amount =>
    simp only [dispatch, transfer, makeTransferWithEvent, wp_bind, wp_ensureSigned, wp_ensure,
      wp_makeTransfer]
    refine ⟨?_, fun _ => hfail⟩
    rintro who rfl
    refine ⟨fun _ => ⟨fun _ => ⟨fun _ => trivial, fun _ => .same ?_⟩, fun _ => hfail⟩,
      fun _ => hfail⟩
    unfold Store.moved
    split
    · exact hfail
    · exact ⟨rfl, rfl, rfl, rfl⟩
  | updatePermission id newPermission =>
    simp only [dispatch, updatePermission, wp_bind, wp_ensureSigned, wp_gets, wp_ensure, wp_modify]
    refine ⟨?_, fun _ => hfail⟩
    rintro who rfl
    refine ⟨fun hcheck => ?_, fun _ => hfail⟩
    exact .permitted rfl rfl (h.terms_of_owner hcheck) (if_pos (owner_of_checkPermission hcheck))
  | mint id toAccount amount =>
    simp only [dispatch, mint, mintFree, wp_bind, wp_ensureSigned, wp_gets, wp_ensure,
      wp_okOr_checkedAdd, wp_modify]
    refine ⟨?_, fun _ => hfail⟩
    rintro who rfl
    refine ⟨fun hcheck => ⟨fun _ => hfail, fun hfits => ⟨fun _ => hfail, fun _ => ?_⟩⟩,
      fun _ => hfail⟩
    exact .issued rfl rfl (h.terms_of_owner hcheck)
      (if_pos ⟨owner_of_checkPermission hcheck, hfits⟩)
  | burn id toAccount amount =>
    simp only [dispatch, burn, burnFree, wp_bind, wp_ensureSigned, wp_gets, wp_ensure,
      wp_okOr_checkedSub, wp_modify]
    refine ⟨?_, fun _ => hfail⟩
    rintro who rfl
    refine ⟨fun hcheck => ⟨fun _ => hfail, fun hle => ⟨fun _ => hfail, fun _ => ?_⟩⟩,
      fun _ => hfail⟩
    exact .issued rfl rfl (h.terms_of_owner hcheck)
      (if_pos ⟨owner_of_checkPermission hcheck, BitVec.le_def.mpr hle⟩)
  | createReserved id options =>
    simp only [dispatch, createReserved, wp_bind, wp_ensureRoot]
    refine ⟨?_, fun _ => hfail⟩
    rintro rfl
    refine wp_mono (createAsset_effect (E := fun _ t => s.SameAssets t) ?_ fun _ => hfail)
      (fun _ _ h => h) (fun _ _ h => h) False.elim
    intro id' nextAssetId _ htaken _ _ _ hgiven
    obtain rfl := hgiven id rfl
    exact .created h htaken rfl rfl

end Steps

/-- **What an operation means for the asset under an id**: nothing, if it fails. -/
def Op.assetEvent [Inhabited AccountId] (β : Build) (assetId : AssetId) (op : Op AccountId)
    (s : Store AccountId) : Option (AssetEvent AccountId) :=
  match op with
  | .extrinsic key origin call =>
    match (dispatch key origin call : Prog β AccountId Unit) s with
    | .ok _ _ => call.assetMeaning assetId key origin s
    | _ => none
  | _ => none

section Runs

variable [Inhabited AccountId] {β : Build} {twox64 : List UInt8 → LockIdentifier}
  {s s' s₀ : Store AccountId} {op : Op AccountId} {assetId : AssetId}

/-- **An operation is an event of the asset**, or leaves it as it is. -/
theorem becomes_of_next (h : s.IdsInUse) (hnext : nextLedger β twox64 op s = some s') :
    s.Becomes assetId (op.assetEvent β assetId s) s' := by
  cases op with
  | extrinsic key origin call =>
    rcases cases_of_wp (dispatch_becomes h key origin call assetId) with
      ⟨_, t, hx, hbecomes⟩ | ⟨e, t, hx, hsame⟩ | ⟨hx, -⟩
    · rw [nextLedger, Op.exec, hx] at hnext
      cases hnext
      rw [Op.assetEvent, hx]
      exact hbecomes
    · rw [nextLedger, Op.exec, hx] at hnext
      cases hnext
      rw [Op.assetEvent, hx]
      exact .same hsame
    · rw [nextLedger, Op.exec, hx] at hnext
      cases hnext
      rw [Op.assetEvent, hx]
      exact .same (.refl s)
  | reserve id who amount =>
    refine .same (nextLedger_of_wp ?_ (.refl s) hnext)
    rw [Op.exec, wp_bind, wp_reserve]
    exact ⟨fun _ => ⟨fun _ => trivial, fun _ => ⟨rfl, rfl, rfl, rfl⟩⟩, fun _ => .refl s⟩
  | unreserve id who amount choice =>
    refine .same (nextLedger_of_wp ?_ (.refl s) hnext)
    rw [Op.exec, wp_unreserve]
    exact ⟨fun _ => ⟨fun lockId _ => ⟨fun _ => trivial, fun _ => ⟨rfl, rfl, rfl, rfl⟩⟩,
      fun _ => .refl s⟩, fun _ => .refl s⟩

/-- **The ledger, seen from the id of an asset**, is the machine of an asset. -/
theorem ledger_simulates_asset (assetId : AssetId) :
    Simulates (nextLedger β twox64) (fun (_ : Store AccountId) _ => True)
      (Op.assetEvent β assetId) AssetEvent.next
      fun s asset => s.IdsInUse ∧ s.terms assetId = asset where
  step op s s' asset h _ hnext := by
    obtain ⟨hids, rfl⟩ := h
    exact ⟨s'.terms assetId, becomes_of_next hids hnext,
      (nextLedger_issueEffect hnext).idsInUse hids, rfl⟩

omit [DecidableEq AccountId] [Inhabited AccountId] in
theorem Store.issued_terms : issued (s.terms assetId) = (s.totalIssuance.get assetId).toNat := by
  have hread : s.totalIssuance.get assetId = (s.totalIssuance.get? assetId).getD 0 := rfl
  rw [Store.terms, hread]
  cases s.totalIssuance.get? assetId <;> rfl

/-- **The life of an asset.** In every run from a genesis whose assets have ids below the counter,
an id is given to one asset at most, and what happens to that asset then is minted, burnt and
permitted by accounts that have the permission at the time. Its permissions are those given last,
and its issuance is, to the unit, what was issued before and has been since, less what was burnt. -/
theorem asset_life {config : GenesisConfig AccountId} {key : AccountId} {ops : List (Op AccountId)}
    (hids : ∀ assetId ∈ config.assets, assetId < config.nextAssetId)
    (hgenesis : (config.build key : Prog β AccountId Unit) .empty = .ok () s₀)
    (hrun : run (nextLedger β twox64) ops s₀ = some s) (assetId : AssetId) :
    ∃ events, collect (nextLedger β twox64) (Op.assetEvent β assetId) ops s₀ = events ∧
      run AssetEvent.next events (s₀.terms assetId) = some (s.terms assetId) ∧
      (s.totalIssuance.get assetId).toNat + (events.map AssetEvent.amountBurnt).sum =
        (s₀.totalIssuance.get assetId).toNat + (events.map AssetEvent.amountIssued).sum := by
  have hstart : s₀.IdsInUse := (wp_of_ok hgenesis).mp (config.build_idsInUse hids key)
  obtain ⟨_, hevents, -, rfl⟩ := (ledger_simulates_asset assetId).follows ⟨hstart, rfl⟩ hrun
    fun _ _ => trivial
  refine ⟨_, rfl, hevents, ?_⟩
  rw [← Store.issued_terms, ← Store.issued_terms]
  exact AssetEvent.issued_of_run hevents

end Runs

/-- The administrator creates an asset, lets the account 6 mint it, and burns some of it. -/
def exampleAsset : List (Op ℕ) :=
  [.extrinsic 9 .root (.create 100 []),
    .extrinsic 9 (.signed 9) (.updatePermission 5 ⟨.none, .address 6, .address 9⟩),
    .extrinsic 9 (.signed 6) (.mint 5 7 30), .extrinsic 9 (.signed 9) (.burn 5 9 10)]

theorem asset_life_example :
    ∃ s, run (nextLedger .release Twox.twox64) exampleAsset exampleState.assets = some s ∧
      (s.totalIssuance.get 5).toNat = 120 := by
  obtain ⟨s, hrun, -⟩ := exists_of_any (p := fun _ => True)
    (o := run (nextLedger .release Twox.twox64) exampleAsset exampleState.assets)
    (by decide +kernel)
  have hids : ∀ assetId ∈ exampleConfig.genericAsset.assets,
      assetId < exampleConfig.genericAsset.nextAssetId := by
    simp [exampleConfig]
  have hgenesis := MoneyPool.GenesisConfig.assets_of_build exampleConfig_build
  obtain ⟨events, hevents, -, hissued⟩ := asset_life hids hgenesis hrun 5
  have hburnt : (events.map AssetEvent.amountBurnt).sum = 10 := by
    rw [← hevents]
    decide +kernel
  have hgiven : (events.map AssetEvent.amountIssued).sum = 130 := by
    rw [← hevents]
    decide +kernel
  have hstart : (exampleState.assets.totalIssuance.get 5).toNat = 0 := by decide +kernel
  refine ⟨s, hrun, ?_⟩
  omega

end GenericAsset

end MoneyPool
