import MoneyPool.Pallet.Simulation
import MoneyPool.Effect
import MoneyPool.GenericAsset.Conservation
import MoneyPool.Pallet.Twox

/-!
# What the administrator decides

The pool is set up by its administrator: which assets it works with, which accounts it uses, and
its limits. Nothing else that happens on the chain changes any of this, so that after every run
the settings are those the administrator has written, one after the other
(`MoneyPool.settings_are_written`). Each of the setters of the two thresholds writes the other one,
so that what is written is not always what the name of a call says.

The switch is one of the settings. While the pool is paused nothing else is done to its storage,
neither by calls nor by the hook of a block, and the ledger goes on as if it were alone
(`MoneyPool.paused_pool_rests`).
-/

namespace MoneyPool

open Pallet Pallet.Exec DepositLoan RuntimeState

variable {AccountId : Type}

/-! ### Settings -/

/-- **The settings** of the pool. -/
structure Settings (AccountId : Type) where
  paused : Bool
  collectionAssetId : AssetId
  collectionAccountId : AccountId
  profitAssetId : AssetId
  profitPool : AccountId
  pawnShop : AccountId
  collateralAssetId : AssetId
  loanAssetId : AssetId
  globalLTVLimit : LTV
  globalLiquidationThreshold : LTV
  globalWarningThreshold : LTV
  penaltyRate : BitVec 32
  liquidationAccount : AccountId
  loanCap : Option Balance
  minimumCollateral : Balance
  liquidationPenalty : BitVec 32
  deriving DecidableEq

/-- The settings in the storage. -/
def DepositLoan.Store.settings (t : DepositLoan.Store AccountId) : Settings AccountId where
  paused := t.paused
  collectionAssetId := t.collectionAssetId
  collectionAccountId := t.collectionAccountId
  profitAssetId := t.profitAssetId
  profitPool := t.profitPool
  pawnShop := t.pawnShop
  collateralAssetId := t.collateralAssetId
  loanAssetId := t.loanAssetId
  globalLTVLimit := t.globalLTVLimit
  globalLiquidationThreshold := t.globalLiquidationThreshold
  globalWarningThreshold := t.globalWarningThreshold
  penaltyRate := t.penaltyRate
  liquidationAccount := t.liquidationAccount
  loanCap := t.loanCap
  minimumCollateral := t.minimumCollateral
  liquidationPenalty := t.liquidationPenalty

/-- **What the administrator's call of a setting does to the settings.** The setters of the two
thresholds each write the threshold of the other one. -/
def Settings.write (c : Settings AccountId) : DepositLoan.Call AccountId → Settings AccountId
  | .pause => { c with paused := true }
  | .resume => { c with paused := false }
  | .setCollectionAssetId assetId => { c with collectionAssetId := assetId }
  | .setCollectionAccount accountId => { c with collectionAccountId := accountId }
  | .setCollateralAssetId assetId => { c with collateralAssetId := assetId }
  | .setGlobalLTVLimit limit => { c with globalLTVLimit := limit }
  | .setLoanAssetId assetId => { c with loanAssetId := assetId }
  | .setGlobalLiquidationThreshold threshold => { c with globalWarningThreshold := threshold }
  | .setGlobalWarningThreshold threshold => { c with globalLiquidationThreshold := threshold }
  | .setLoanCap balance => { c with loanCap := if balance = 0 then none else some balance }
  | .setLiquidationAccount accountId => { c with liquidationAccount := accountId }
  | .setProfitAssetId assetId => { c with profitAssetId := assetId }
  | .setProfitPool accountId => { c with profitPool := accountId }
  | .setPenaltyRate rate => { c with penaltyRate := rate }
  | _ => c

/-- A setting does to the storage what it does to the settings ... -/
theorem setting_settings {call : DepositLoan.Call AccountId}
    {f : DepositLoan.Store AccountId → DepositLoan.Store AccountId} (h : call.setting = some f)
    (t : DepositLoan.Store AccountId) : (f t).settings = t.settings.write call := by
  cases call <;> cases h <;> rfl

/-- The storage with other settings. -/
def DepositLoan.Store.withSettings (t : DepositLoan.Store AccountId) (c : Settings AccountId) :
    DepositLoan.Store AccountId :=
  { t with
    paused := c.paused
    collectionAssetId := c.collectionAssetId
    collectionAccountId := c.collectionAccountId
    profitAssetId := c.profitAssetId
    profitPool := c.profitPool
    pawnShop := c.pawnShop
    collateralAssetId := c.collateralAssetId
    loanAssetId := c.loanAssetId
    globalLTVLimit := c.globalLTVLimit
    globalLiquidationThreshold := c.globalLiquidationThreshold
    globalWarningThreshold := c.globalWarningThreshold
    penaltyRate := c.penaltyRate
    liquidationAccount := c.liquidationAccount
    loanCap := c.loanCap
    minimumCollateral := c.minimumCollateral
    liquidationPenalty := c.liquidationPenalty }

/-- ... and nothing else. -/
theorem setting_withSettings {call : DepositLoan.Call AccountId}
    {f : DepositLoan.Store AccountId → DepositLoan.Store AccountId} (h : call.setting = some f)
    (t : DepositLoan.Store AccountId) : f t = t.withSettings (t.settings.write call) := by
  cases call <;> cases h <;> rfl

variable [DecidableEq AccountId] [Inhabited AccountId]

/-- **The setting a step writes**, if any: a call of the administrator that is one, and succeeds. -/
def Step.written (i : Step AccountId) (s : RuntimeState AccountId) :
    Option (DepositLoan.Call AccountId) :=
  match i with
  | .extrinsic .root (.depositLoan call) =>
    if call.setting.isSome = true ∧ i.succeeds s = true then some call else none
  | _ => none

/-- The settings after some calls of the administrator. -/
def Settings.writeAll (c : Settings AccountId) (calls : List (DepositLoan.Call AccountId)) :
    Settings AccountId :=
  calls.foldl Settings.write c

section Steps

variable {s s' : RuntimeState AccountId} {i : Step AccountId} {ok : Bool}

omit [Inhabited AccountId] in
/-- A step of the hook writes no setting. -/
theorem RuntimeState.HookStep.settings [Inhabited AccountId] (h : s.HookStep s') :
    s'.saving.settings = s.saving.settings := by
  cases h <;> rfl

/-- Who stakes or redeems, writes no setting. -/
theorem written_of_stake {e : AccountId × AssetId × Balance} (h : i.stake = some e) :
    i.written s = none := by
  unfold Step.stake at h
  split at h
  · rfl
  · rfl
  · cases h

theorem written_of_redeem {e : AccountId × AssetId × Balance} (h : i.redeem = some e) :
    i.written s = none := by
  unfold Step.redeem at h
  split at h
  · rfl
  · rfl
  · cases h

/-- What is written is a setting, and the administrator has called it. -/
theorem eq_of_written {call : DepositLoan.Call AccountId} (h : i.written s = some call) :
    call.setting.isSome = true ∧ i = .extrinsic .root (.depositLoan call) := by
  unfold Step.written at h
  split at h
  · obtain ⟨⟨hset, -⟩, heq⟩ := Option.ite_none_right_eq_some.mp h
    cases heq
    exact ⟨hset, rfl⟩
  · cases h

/-- A step that fails writes no setting. -/
theorem written_of_failed (h : i.succeeds s = false) : i.written s = none := by
  unfold Step.written
  split
  · refine if_neg fun hset => ?_
    rw [h] at hset
    exact Bool.false_ne_true hset.2
  · rfl

/-- **A step changes the settings as the call it writes**, if it writes one, and not at all
otherwise. -/
theorem settings_of_next (hnext : next i s = some s') :
    s'.saving.settings = s.saving.settings.writeAll (i.written s).toList := by
  have heff := effect_of_next hnext
  generalize hok : i.succeeds s = ok at heff
  have hsame (hnone : i.written s = none) (h : s'.saving.settings = s.saving.settings) :
      s'.saving.settings = s.saving.settings.writeAll (i.written s).toList := by
    rw [hnone]
    exact h
  cases heff with
  | unchanged => exact hsame (written_of_failed hok) rfl
  | oracleCall origin call => exact hsame (by cases origin <;> rfl) rfl
  | ledgerCall origin call => exact hsame (by cases origin <;> rfl) rfl
  | ledgerFailed => exact hsame (written_of_failed hok) rfl
  | set call f hf =>
    have hwritten : (Step.extrinsic .root (.depositLoan call)).written s = some call :=
      if_pos ⟨hf ▸ rfl, hok⟩
    rw [hwritten]
    exact setting_settings hf s.saving
  | staked who assetId amount hi => exact hsame (written_of_stake hi) rfl
  | redeemed who assetId amount hi hopen hcan hred =>
    obtain ⟨u, m, d, heq⟩ := hred.saving_eq
    refine hsame (written_of_redeem hi) ?_
    rw [heq]
    rfl
  | hook _ hst =>
    refine hsame rfl ?_
    clear hsame hnext
    induction hst with
    | refl => rfl
    | tail _ hstep ih => exact hstep.settings.trans ih
  | _ => exact hsame rfl rfl

end Steps

/-- A run writes the settings of its steps. -/
theorem settings_of_run {is : List (Step AccountId)} {s₀ s : RuntimeState AccountId}
    (hrun : run next is s₀ = some s) :
    s.saving.settings = s₀.saving.settings.writeAll (collect next Step.written is s₀) := by
  have hstart : s₀.saving.settings = s₀.saving.settings.writeAll [] := rfl
  refine run_invariant
    (I := fun calls t => t.saving.settings = s₀.saving.settings.writeAll calls) ?_ hstart hrun
  intro calls i t t' hcalls hnext
  rw [settings_of_next hnext, hcalls, Settings.writeAll, Settings.writeAll, Settings.writeAll,
    List.foldl_append]

/-- **The settings are what the administrator has written**: after every run of the chain they are
those from the start, changed by the settings that have been written, one after the other, each by a
call of the administrator in the run. -/
theorem settings_are_written {is : List (Step AccountId)} {s₀ s : RuntimeState AccountId}
    (hrun : run next is s₀ = some s) :
    s.saving.settings = s₀.saving.settings.writeAll (collect next Step.written is s₀) ∧
      ∀ call ∈ collect next Step.written is s₀,
        call.setting.isSome = true ∧ .extrinsic .root (.depositLoan call) ∈ is := by
  refine ⟨settings_of_run hrun, fun call hcall => ?_⟩
  obtain ⟨i, hi, t, hwritten⟩ := exists_input_of_collect hcall
  obtain ⟨hset, rfl⟩ := eq_of_written hwritten
  exact ⟨hset, hi⟩

/-- Two limits are set, and an attempt of somebody else to set one fails. -/
theorem settings_are_written_example :
    ∃ s, run next [.extrinsic .root (.depositLoan (.setLoanCap 7)), signedCall 5 (.setLoanCap 9),
        .onInitialize 1, .extrinsic .root (.depositLoan (.setPenaltyRate 3))] exampleState =
          some s ∧
      s.saving.settings =
        { exampleState.saving.settings with loanCap := some 7, penaltyRate := 3 } := by
  obtain ⟨s, hrun, -⟩ := exists_of_any (p := fun _ => True)
    (o := run next [.extrinsic .root (.depositLoan (.setLoanCap 7)), signedCall 5 (.setLoanCap 9),
      .onInitialize 1, .extrinsic .root (.depositLoan (.setPenaltyRate 3))] exampleState)
    (by decide +kernel)
  refine ⟨s, hrun, ?_⟩
  rw [(settings_are_written hrun).1]
  decide +kernel

/-! ### A pool that is paused -/

/-- The operation of the ledger that a step is, if it is one. -/
def Step.ledgerOp (i : Step AccountId) (s : RuntimeState AccountId) :
    Option (GenericAsset.Op AccountId) :=
  match i with
  | .extrinsic origin (.genericAsset call) => some (.extrinsic s.sudoKey origin call)
  | _ => none

/-- **A pool at rest**: it is paused and, but for its settings, as it was, and the ledger is the
given one. -/
structure RuntimeState.RestsWith (s₀ s : RuntimeState AccountId)
    (assets : GenericAsset.Store AccountId) : Prop where
  paused : s.saving.paused = true
  saving : s.saving = s₀.saving.withSettings s.saving.settings
  assets : s.assets = assets

section Rest

variable {s s' : RuntimeState AccountId} {i : Step AccountId}
  {twox64 : List UInt8 → GenericAsset.LockIdentifier}

/-- The hook of a block does nothing while the pool is paused. -/
theorem next_onInitialize_of_paused (hpaused : s.saving.paused = true) (height : BlockNumber) :
    next (.onInitialize height) s = some s := by
  have hx : (Step.exec (.onInitialize height) : Prog .release AccountId Unit) s = .ok () s := by
    refine eq_ok_of_wp ?_
    simp only [Step.exec, onInitialize, wp_bind, wp_gets, hpaused]
    rw [if_neg fun h => by cases h]
    exact rfl
  rw [next, hx]

omit [DecidableEq AccountId] [Inhabited AccountId] in
/-- Only `resume` ends a pause. -/
theorem Settings.paused_write {c : Settings AccountId} {call : DepositLoan.Call AccountId}
    (h : c.paused = true) (hno : call ≠ .resume) : (c.write call).paused = true := by
  cases call with
  | resume => exact absurd rfl hno
  | pause => rfl
  | _ => exact h

/-- **A call of the ledger** is its operation there, and touches nothing else. -/
theorem next_genericAsset {origin : Origin AccountId} {call : GenericAsset.Call AccountId}
    (hnext : next (.extrinsic origin (.genericAsset call)) s = some s') :
    GenericAsset.nextLedger .release twox64 (.extrinsic s.sudoKey origin call) s.assets =
      some s'.assets := by
  have hx : (Step.exec (.extrinsic origin (.genericAsset call)) : Prog .release AccountId Unit) s =
      zoom assetsLens (GenericAsset.dispatch s.sudoKey origin call) s := rfl
  rw [next, hx, zoom] at hnext
  rw [GenericAsset.nextLedger, GenericAsset.Op.exec]
  have hassets : assetsLens.get s = s.assets := rfl
  rw [hassets] at hnext
  cases hd : (GenericAsset.dispatch s.sudoKey origin call :
      GenericAsset.Prog .release AccountId Unit) s.assets with
  | ok _ t =>
    rw [hd] at hnext
    cases hnext
    rfl
  | err _ t =>
    rw [hd] at hnext
    cases hnext
    rfl
  | panic =>
    rw [hd] at hnext
    cases hnext
    rfl

/-- A step taken while the pool is paused changes its settings at most, and the ledger only by an
operation of the ledger. -/
theorem next_of_paused (hpaused : s.saving.paused = true) (hnext : next i s = some s') :
    s'.saving = s.saving.withSettings s'.saving.settings ∧
      (i.ledgerOp s = none → s'.assets = s.assets) := by
  have heff := effect_of_next hnext
  generalize i.succeeds s = ok at heff
  have hopen {P : Prop} (h : s.saving.paused = false) : P :=
    absurd (hpaused.symm.trans h) fun h => by cases h
  cases heff with
  | unchanged => exact ⟨rfl, fun _ => rfl⟩
  | timed => exact ⟨rfl, fun _ => rfl⟩
  | oracleCall => exact ⟨rfl, fun _ => rfl⟩
  | aggregated => exact ⟨rfl, fun _ => rfl⟩
  | ledgerCall => exact ⟨rfl, fun hno => by cases hno⟩
  | ledgerFailed => exact ⟨rfl, fun hno => by cases hno⟩
  | set call f hf =>
    refine ⟨?_, fun _ => rfl⟩
    have hwrite := setting_withSettings hf s.saving
    rw [← setting_settings hf] at hwrite
    exact hwrite
  | hook height =>
    rw [next_onInitialize_of_paused hpaused] at hnext
    cases hnext
    exact ⟨rfl, fun _ => rfl⟩
  | staked _ _ _ _ h => exact hopen h
  | redeemed _ _ _ _ h => exact hopen h
  | granted _ _ _ h => exact hopen h
  | taken _ _ _ h => exact hopen h
  | repaid _ _ h => exact hopen h
  | repayReverted _ _ _ h => exact hopen h
  | liquidated _ _ _ h => exact hopen h
  | notLiquidated _ _ _ _ h => exact hopen h
  | collateralAdded _ _ _ h => exact hopen h
  | drawn _ _ _ h => exact hopen h

/-- The ledger does what a step means for it, while the pool is paused. -/
theorem nextLedger_of_paused (hpaused : s.saving.paused = true) (hnext : next i s = some s') :
    run (GenericAsset.nextLedger .release twox64) (i.ledgerOp s).toList s.assets =
      some s'.assets := by
  cases hop : i.ledgerOp s with
  | none => exact congrArg some ((next_of_paused hpaused hnext).2 hop).symm
  | some op =>
    unfold Step.ledgerOp at hop
    split at hop
    · cases hop
      exact run_singleton (next_genericAsset hnext)
    · cases hop

/-- A pause lasts until the administrator ends it. -/
theorem paused_of_next (hpaused : s.saving.paused = true) (hnext : next i s = some s')
    (hno : i ≠ .extrinsic .root (.depositLoan .resume)) : s'.saving.paused = true := by
  have hwritten := settings_of_next hnext
  have hkeeps : (s.saving.settings.writeAll (i.written s).toList).paused = true := by
    unfold Step.written
    split
    · rename_i call
      split
      · exact Settings.paused_write hpaused fun h => hno (h ▸ rfl)
      · exact hpaused
    · exact hpaused
  rw [← hwritten] at hkeeps
  exact hkeeps

/-- **A pool that is paused simulates the ledger alone.** -/
theorem simulates_ledger {s₀ : RuntimeState AccountId} :
    Simulates next (fun _ i => i ≠ .extrinsic .root (.depositLoan .resume)) Step.ledgerOp
      (GenericAsset.nextLedger .release twox64) s₀.RestsWith where
  step i s s' a hrest hno hnext := by
    obtain ⟨hpaused, hsaving, rfl⟩ := hrest
    refine ⟨s'.assets, nextLedger_of_paused hpaused hnext, paused_of_next hpaused hnext hno, ?_,
      rfl⟩
    have hpool := (next_of_paused hpaused hnext).1
    rw [hsaving] at hpool
    exact hpool

end Rest

/-- **A paused pool rests.** In every run that starts with the pool paused, and in which the
administrator does not resume it, the storage of the pool ends as it started, but for the settings
the administrator has written, and the ledger ends as it does when only the calls of the ledger are
made. -/
theorem paused_pool_rests {is : List (Step AccountId)} {s₀ s : RuntimeState AccountId}
    {twox64 : List UInt8 → GenericAsset.LockIdentifier} (hpaused : s₀.saving.paused = true)
    (hrun : run next is s₀ = some s) (hno : .extrinsic .root (.depositLoan .resume) ∉ is) :
    s.saving = s₀.saving.withSettings
        (s₀.saving.settings.writeAll (collect next Step.written is s₀)) ∧
      run (GenericAsset.nextLedger .release twox64) (collect next Step.ledgerOp is s₀) s₀.assets =
        some s.assets := by
  have hinputs : ∀ x ∈ trace next is s₀, x.2.1 ≠ .extrinsic .root (.depositLoan .resume) := by
    rintro x hx heq
    exact hno (heq ▸ input_mem_of_mem_trace hx)
  obtain ⟨a, hledger, hrest⟩ :=
    simulates_ledger.follows ⟨hpaused, rfl, rfl⟩ hrun hinputs
  rw [← settings_of_run hrun, hrest.assets]
  exact ⟨hrest.saving, hledger⟩

/-- A stake is refused, and a transfer is not. -/
theorem paused_pool_rests_example :
    ∃ s₀ s, s₀ = exampleState.withSaving (fun t => { t with paused := true }) ∧
      run next [signedCall 5 (.staking 0 100), .onInitialize 5,
        .extrinsic (.signed 5) (.genericAsset (.transfer 0 6 10))] s₀ = some s ∧
      s.saving = s₀.saving ∧
      run (GenericAsset.nextLedger .release Twox.twox64)
        [.extrinsic 9 (.signed 5) (.transfer 0 6 10)] s₀.assets = some s.assets := by
  obtain ⟨s, hrun, -⟩ := exists_of_any (p := fun _ => True)
    (o := run next [signedCall 5 (.staking 0 100), .onInitialize 5,
      .extrinsic (.signed 5) (.genericAsset (.transfer 0 6 10))]
        (exampleState.withSaving fun t => { t with paused := true })) (by decide +kernel)
  refine ⟨_, s, rfl, hrun, ?_⟩
  exact paused_pool_rests rfl hrun (by simp [signedCall])

end MoneyPool
