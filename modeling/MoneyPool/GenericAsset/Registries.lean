import MoneyPool.GenericAsset.Frozen

/-!
# Two registries of assets

An asset exists for the ledger if it is issued, and for the pallets that use the ledger if it has a
symbol. The genesis storage without endowed assets and the call that creates an asset write both
records. The call that creates an asset under a reserved id writes no symbol, and the id is never
handed out again: from then on there is an asset that does not exist for the others. So the records
agree at the end of a run exactly if it has created no asset under a reserved id
(`MoneyPool.GenericAsset.registries_agree_iff`).
-/

namespace MoneyPool

namespace GenericAsset

open Pallet Pallet.Exec

variable {AccountId : Type} [DecidableEq AccountId] [Inhabited AccountId] {β : Build}
  {twox64 : List UInt8 → LockIdentifier}

/-- **The registries agree**: what has a symbol is issued, and conversely. -/
def Store.RegistriesAgree (s : Store AccountId) : Prop :=
  ∀ assetId, s.assetIdExists assetId = true ↔ s.totalIssuance.containsKey assetId = true

/-- **An operation creates an asset under a reserved id**: root asks for it, and the id is below the
counter and not issued. -/
def Store.CreatesReserved (s : Store AccountId) : Op AccountId → Prop
  | .extrinsic _ origin (.createReserved assetId _) =>
    origin = .root ∧ s.totalIssuance.containsKey assetId = false ∧ assetId < s.nextAssetId
  | _ => False

section Step

variable {s s' t : Store AccountId} {op : Op AccountId} {assetId : AssetId}

omit [DecidableEq AccountId] [Inhabited AccountId] in
/-- Only the ids that are issued and those that have a symbol matter. -/
theorem registriesAgree_congr (hsymbols : t.symbols = s.symbols)
    (hissued : ∀ assetId, t.totalIssuance.containsKey assetId = true ↔
      s.totalIssuance.containsKey assetId = true) : t.RegistriesAgree ↔ s.RegistriesAgree := by
  refine forall_congr' fun assetId => ?_
  rw [hissued, Store.assetIdExists, hsymbols]
  rfl

omit [DecidableEq AccountId] [Inhabited AccountId] in
/-- A new issuance of an issued asset issues no other id. -/
theorem containsKey_issue (h : s.totalIssuance.containsKey assetId = true) (issuance : Balance)
    (asset' : AssetId) : (s.totalIssuance.insert assetId issuance).containsKey asset' = true ↔
      s.totalIssuance.containsKey asset' = true := by
  rw [StorageMap.containsKey_insert, or_iff_right_of_imp]
  rintro rfl
  exact h

omit [DecidableEq AccountId] [Inhabited AccountId] in
/-- **A created and registered asset** is in both records. -/
theorem registriesAgree_create (hids : s.IdsInUse) {symbol : StrBytes} {issuance : Balance}
    (hsymbols : t.symbols = s.symbols.insert s.nextAssetId symbol)
    (hissued : t.totalIssuance = s.totalIssuance.insert s.nextAssetId issuance) :
    t.RegistriesAgree ↔ s.RegistriesAgree := by
  have hnew : ¬s.totalIssuance.containsKey s.nextAssetId = true := hids.not_taken (Or.inr rfl)
  unfold Store.RegistriesAgree Store.assetIdExists
  rw [hsymbols, hissued]
  refine forall_congr' fun assetId => ?_
  rw [StorageMap.containsKey_insert, StorageMap.containsKey_insert]
  by_cases heq : assetId = s.nextAssetId
  · -- before, the id of the counter was in neither record
    subst heq
    exact iff_of_true (by simp) (iff_of_false (fun h => hnew (hids.registered _ h)) hnew)
  · simp only [heq, false_or]

/-- **The calls that create nothing** leave both records alone. -/
theorem dispatch_registries (hids : s.IdsInUse) (key : AccountId) (origin : Origin AccountId)
    (call : Call AccountId) (hcall : ∀ assetId options, call ≠ .createReserved assetId options) :
    wp (dispatch key origin call : Prog β AccountId Unit)
      (fun _ t => t.RegistriesAgree ↔ s.RegistriesAgree)
      (fun _ t => t.RegistriesAgree ↔ s.RegistriesAgree) True s := by
  cases call with
  | create initialIssuance symbol =>
    simp only [dispatch, create, createAsset, takeAssetId, wp_bind, wp_ensureRoot, wp_gets,
      wp_okOr_checkedAdd, wp_modify, wp_pure]
    refine ⟨fun _ => ⟨fun _ => trivial, fun _ => ?_⟩, fun _ => trivial⟩
    exact registriesAgree_create hids rfl rfl
  | transfer assetId toAccount amount =>
    simp only [dispatch, transfer, makeTransferWithEvent, wp_bind, wp_ensureSigned, wp_ensure,
      wp_makeTransfer]
    refine ⟨fun _ _ => ⟨fun _ => ⟨fun _ => ⟨fun _ => trivial, fun _ => ?_⟩, fun _ => trivial⟩,
      fun _ => trivial⟩, fun _ => trivial⟩
    exact registriesAgree_congr (Store.moved_symbols ..) fun _ => by rw [Store.moved_totalIssuance]
  | updatePermission assetId newPermission =>
    simp only [dispatch, updatePermission, wp_bind, wp_ensureSigned, wp_gets, wp_ensure, wp_modify]
    exact ⟨fun _ _ => ⟨fun _ => registriesAgree_congr rfl fun _ => Iff.rfl, fun _ => trivial⟩,
      fun _ => trivial⟩
  | mint assetId toAccount amount =>
    simp only [dispatch, mint, mintFree, wp_bind, wp_ensureSigned, wp_gets, wp_ensure,
      wp_okOr_checkedAdd, wp_modify]
    refine ⟨fun _ _ => ⟨fun hcheck => ⟨fun _ => trivial, fun _ => ⟨fun _ => trivial,
      fun _ => ?_⟩⟩, fun _ => trivial⟩, fun _ => trivial⟩
    exact registriesAgree_congr rfl
      (containsKey_issue (hids.issued_of_owner .mint (owner_ne_none hcheck)) _)
  | burn assetId toAccount amount =>
    simp only [dispatch, burn, burnFree, wp_bind, wp_ensureSigned, wp_gets, wp_ensure,
      wp_okOr_checkedSub, wp_modify]
    refine ⟨fun _ _ => ⟨fun hcheck => ⟨fun _ => trivial, fun _ => ⟨fun _ => trivial,
      fun _ => ?_⟩⟩, fun _ => trivial⟩, fun _ => trivial⟩
    exact registriesAgree_congr rfl
      (containsKey_issue (hids.issued_of_owner .burn (owner_ne_none hcheck)) _)
  | createReserved assetId options => exact absurd rfl (hcall assetId options)

/-- **An asset under a reserved id** is issued without a symbol. -/
theorem createReserved_disagrees (hids : s.IdsInUse) (options : AssetOptions AccountId)
    (hfree : s.totalIssuance.containsKey assetId = false) (hbelow : assetId < s.nextAssetId) :
    wp (createReserved .root assetId options : Prog β AccountId Unit)
      (fun _ t => ¬t.RegistriesAgree) (fun _ _ => False) False s := by
  simp only [createReserved, createAsset, takeAssetId, wp_bind, wp_ensureRoot, wp_gets, wp_ensure,
    wp_modify, wp_pure]
  refine ⟨fun _ => ⟨fun _ => ⟨fun _ hagree => ?_, fun hno => hno hbelow⟩, fun hno => hno hfree⟩,
    fun hno => hno rfl⟩
  have hissued : (s.totalIssuance.insert assetId options.initialIssuance).containsKey assetId =
      true := StorageMap.containsKey_insert.mpr (Or.inl rfl)
  have hregistered : s.assetIdExists assetId = true := (hagree assetId).mpr hissued
  have hold := hids.registered assetId hregistered
  rw [hfree] at hold
  cases hold

/-- Where the id is not reserved, the call is refused. -/
theorem createReserved_refused {origin : Origin AccountId} {options : AssetOptions AccountId}
    (hno : ¬(origin = .root ∧ s.totalIssuance.containsKey assetId = false ∧
      assetId < s.nextAssetId)) :
    wp (createReserved origin assetId options : Prog β AccountId Unit) (fun _ _ => False)
      (fun _ t => t = s) False s := by
  simp only [createReserved, createAsset, takeAssetId, wp_bind, wp_ensureRoot, wp_gets, wp_ensure,
    wp_modify, wp_pure]
  exact ⟨fun hroot => ⟨fun hfree => ⟨fun hbelow => hno ⟨hroot, hfree, hbelow⟩, fun _ => trivial⟩,
    fun _ => trivial⟩, fun _ => trivial⟩

/-- **When an operation keeps the registries together.** -/
theorem next_agrees (hids : s.IdsInUse) (hnext : nextLedger β twox64 op s = some s') :
    s'.RegistriesAgree ↔ s.RegistriesAgree ∧ ¬s.CreatesReserved op := by
  have hkeeps : ¬s.CreatesReserved op → (s'.RegistriesAgree ↔ s.RegistriesAgree) →
      (s'.RegistriesAgree ↔ s.RegistriesAgree ∧ ¬s.CreatesReserved op) :=
    fun hno hsame => hsame.trans (and_iff_left hno).symm
  have hlocks : s.SameAssets s' → (s'.RegistriesAgree ↔ s.RegistriesAgree) := fun hsame =>
    registriesAgree_congr hsame.symbols fun _ => by rw [hsame.totalIssuance]
  cases op with
  | extrinsic key origin call =>
    by_cases hcall : ∃ assetId options, call = .createReserved assetId options
    · obtain ⟨assetId, options, rfl⟩ := hcall
      by_cases hcreates : origin = .root ∧ s.totalIssuance.containsKey assetId = false ∧
          assetId < s.nextAssetId
      · obtain ⟨rfl, hfree, hbelow⟩ := hcreates
        obtain ⟨_, t, hx, hdisagree⟩ := exists_ok_of_wp
          (createReserved_disagrees (β := β) hids options hfree hbelow)
        have hs' : s' = t := by
          rw [nextLedger, Op.exec, dispatch, hx] at hnext
          exact (Option.some.inj hnext).symm
        rw [hs']
        exact iff_of_false hdisagree fun h => h.2 ⟨rfl, hfree, hbelow⟩
      · refine hkeeps hcreates (nextLedger_of_wp
          (I := fun t => t.RegistriesAgree ↔ s.RegistriesAgree) ?_ Iff.rfl hnext)
        refine wp_mono (createReserved_refused hcreates) (fun _ _ hno => hno.elim)
          (fun _ t ht => ?_) fun _ => trivial
        rw [ht]
    · have hno : ∀ assetId options, call ≠ .createReserved assetId options :=
        fun assetId options heq => hcall ⟨assetId, options, heq⟩
      refine hkeeps (fun hcreates => ?_) (nextLedger_of_wp
        (I := fun t => t.RegistriesAgree ↔ s.RegistriesAgree) ?_ Iff.rfl hnext)
      · cases call with
        | createReserved assetId options => exact hno assetId options rfl
        | _ => exact hcreates
      · exact dispatch_registries hids key origin call hno
  | reserve assetId who amount =>
    refine hkeeps (fun h => h) (hlocks (nextLedger_of_wp ?_ (.refl s) hnext))
    rw [Op.exec, wp_bind, wp_reserve]
    exact ⟨fun _ => ⟨fun _ => trivial, fun _ => ⟨rfl, rfl, rfl, rfl⟩⟩, fun _ => .refl s⟩
  | unreserve assetId who amount choice =>
    refine hkeeps (fun h => h) (hlocks (nextLedger_of_wp ?_ (.refl s) hnext))
    rw [Op.exec, wp_unreserve]
    exact ⟨fun _ => ⟨fun lockId _ => ⟨fun _ => trivial, fun _ => ⟨rfl, rfl, rfl, rfl⟩⟩,
      fun _ => .refl s⟩, fun _ => .refl s⟩

end Step

/-! ### Genesis -/

section Runs

variable {s s₀ : Store AccountId} {config : GenesisConfig AccountId} {key : AccountId}

/-- **At genesis the registries agree**, where no assets are endowed. -/
theorem GenesisConfig.build_registries (hassets : config.assets = []) (key : AccountId) :
    wp (config.build key : Prog β AccountId Unit)
      (fun _ t => ∀ assetId, t.totalIssuance.containsKey assetId = true →
        t.assetIdExists assetId = true) (fun _ _ => False) True .empty := by
  simp only [build, wp_bind, wp_mul, forEach_modify, wp_modify]
  refine ⟨fun _ => trivial, fun _ => ?_⟩
  change wp _ _ _ _ config.endowedStore
  have hend : config.endowedStore = config.notedStore := by
    rw [endowedStore, hassets]
    rfl
  rw [hend]
  have hnoted : ∀ assetId, config.notedStore.totalIssuance.containsKey assetId = true →
      config.notedStore.assetIdExists assetId = true := by
    intro assetId hkey
    rw [StorageMap.containsKey, get?_notedStore, hassets] at hkey
    cases hkey
  -- the symbols are all there before the loop, and it issues nothing else
  refine wp_mono (wp_forEach (fun t : Store AccountId => t.symbols = config.notedStore.symbols ∧
      ∀ assetId, t.totalIssuance.containsKey assetId = true →
        config.notedStore.assetIdExists assetId = true) (E := fun _ _ => False) (P := True)
      (fun i hi t ht => ?_) ⟨rfl, hnoted⟩) (fun _ t ht => ?_) (fun _ _ h => h) id
  · obtain ⟨hsymbols, hissued⟩ := ht
    rw [wp_expectOk]
    refine wp_mono (createAsset_effect (E := fun _ _ => True) ?_ fun _ => trivial)
      (fun _ _ h => h) (fun _ _ h => h) False.elim
    intro assetId nextAssetId _ _ _ _ _ hsome
    obtain rfl := hsome i.1 rfl
    refine ⟨hsymbols, fun asset' hkey => ?_⟩
    rcases StorageMap.containsKey_insert.mp hkey with rfl | hkey
    · exact StorageMap.containsKey_foldl_insert.mpr
        (Or.inl (List.mem_map_of_mem (f := Prod.fst) hi))
    · exact hissued asset' hkey
  · intro assetId hkey
    rw [Store.assetIdExists, ht.1]
    exact ht.2 assetId hkey

omit [Inhabited AccountId] in
/-- The transitions of a run that keep the registries together, all of them or not. -/
theorem agrees_of_run [Inhabited AccountId] {ops : List (Op AccountId)} (hids : s₀.IdsInUse)
    (hrun : run (nextLedger β twox64) ops s₀ = some s) :
    s.RegistriesAgree ↔ s₀.RegistriesAgree ∧
      ∀ e ∈ trace (nextLedger β twox64) ops s₀, ¬e.1.CreatesReserved e.2.1 := by
  induction ops generalizing s₀ with
  | nil =>
    cases hrun
    exact ⟨fun h => ⟨h, fun e he => nomatch he⟩, And.left⟩
  | cons op ops ih =>
    obtain ⟨s₁, hnext, hrest⟩ := Option.bind_eq_some_iff.mp hrun
    rw [ih ((nextLedger_issueEffect hnext).idsInUse hids) hrest, next_agrees hids hnext,
      trace_cons_of_some hnext, List.forall_mem_cons, and_assoc]

/-- **When the registries agree.** After every run from a genesis without endowed assets, what has a
symbol is exactly what is issued, if and only if no operation of the run has created an asset under
a reserved id. -/
theorem registries_agree_iff {ops : List (Op AccountId)} (hassets : config.assets = [])
    (hgenesis : (config.build key : Prog β AccountId Unit) .empty = .ok () s₀)
    (hrun : run (nextLedger β twox64) ops s₀ = some s) :
    (∀ assetId, s.assetIdExists assetId = true ↔ s.totalIssuance.containsKey assetId = true) ↔
      ∀ e ∈ trace (nextLedger β twox64) ops s₀, ¬e.1.CreatesReserved e.2.1 := by
  have hids : s₀.IdsInUse := (wp_of_ok hgenesis).mp
    (config.build_idsInUse (fun assetId hmem => by simp [hassets] at hmem) key)
  have hissued := (wp_of_ok hgenesis).mp (config.build_registries (β := β) hassets key)
  have hstart : s₀.RegistriesAgree := fun assetId => ⟨hids.registered assetId, hissued assetId⟩
  exact (agrees_of_run hids hrun).trans (and_iff_right hstart)

end Runs

/-- A ledger with one symbol. -/
def symbolConfig : GenesisConfig ℕ where
  assets := []
  initialBalance := 0
  endowedAccounts := []
  symbols := [(1, [66, 84, 67])]
  nextAssetId := 5

/-- An asset is created, and has a symbol. -/
theorem registries_agree_example : ∃ s, (((symbolConfig.build 9 : Prog .release ℕ Unit)
      .empty).okState.bind (run (nextLedger .release Twox.twox64)
        [.extrinsic 9 .root (.create 7 [65])])) = some s ∧
    ∀ assetId, s.assetIdExists assetId = true ↔ s.totalIssuance.containsKey assetId = true := by
  obtain ⟨s, hs, -⟩ := exists_of_any (p := fun _ : Store ℕ => True)
    (o := ((symbolConfig.build 9 : Prog .release ℕ Unit) .empty).okState.bind
      (run (nextLedger .release Twox.twox64) [.extrinsic 9 .root (.create 7 [65])]))
    (by decide +kernel)
  refine ⟨s, hs, ?_⟩
  obtain ⟨s₀, hbuild, hrun⟩ := Option.bind_eq_some_iff.mp hs
  refine (registries_agree_iff rfl (Outcome.eq_ok_of_okState hbuild) hrun).mpr fun e he => ?_
  obtain ⟨s₁, hnext, -⟩ := Option.bind_eq_some_iff.mp hrun
  rw [trace_cons_of_some hnext, trace_nil, List.mem_singleton] at he
  rw [he]
  exact id

/-- An asset under the reserved id 3 is issued and has no symbol. -/
theorem registries_not_agree : ¬∀ s₀ s,
    (symbolConfig.build 9 : Prog .release ℕ Unit) .empty = .ok () s₀ →
    Reachable (nextLedger .release Twox.twox64) s₀ s →
    ∀ assetId, s.assetIdExists assetId = true ↔ s.totalIssuance.containsKey assetId = true := by
  intro h
  obtain ⟨s, hs, hissued, hsymbol⟩ := exists_of_any
    (p := fun s : Store ℕ => s.totalIssuance.containsKey 3 = true ∧ ¬s.assetIdExists 3 = true)
    (o := ((symbolConfig.build 9 : Prog .release ℕ Unit) .empty).okState.bind
      (run (nextLedger .release Twox.twox64) [.extrinsic 9 .root
        (.createReserved 3 { initialIssuance := 7, permissions := .all 9 })]))
    (by decide +kernel)
  obtain ⟨s₀, hbuild, hrun⟩ := Option.bind_eq_some_iff.mp hs
  exact hsymbol ((h s₀ s (Outcome.eq_ok_of_okState hbuild) (reachable_of_run hrun) 3).mpr hissued)

end GenericAsset

end MoneyPool
