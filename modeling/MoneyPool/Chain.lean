import MoneyPool.Pallet.Runs
import MoneyPool.DepositLoan.Calls

/-!
# The chain

One transition system for the whole runtime. A step is an extrinsic, the
timestamp of a block, or one of the two hooks of a block. An extrinsic that
returns an error keeps what it has written; one that panics never makes it into a
block and changes nothing; a hook that panics stops the chain.

`MoneyPool.Block.steps` lays out the steps of one block in the order the runtime
takes them. The results about runs do not ask for that order: they hold for steps
in any order.
-/

namespace MoneyPool

open Pallet Pallet.Exec

variable {AccountId : Type} [DecidableEq AccountId] [Inhabited AccountId] {β : Build}

/-! ### Steps -/

/-- The calls of the runtime. -/
inductive Call (AccountId : Type) where
  | depositLoan (call : DepositLoan.Call AccountId) : Call AccountId
  | genericAsset (call : GenericAsset.Call AccountId) : Call AccountId
  | newOracle (call : NewOracle.Call) : Call AccountId

/-- **A step** of the chain. -/
inductive Step (AccountId : Type) where
  /-- A call of some origin. -/
  | extrinsic (origin : Origin AccountId) (call : Call AccountId) : Step AccountId
  /-- The timestamp of a block. -/
  | timestamp (now : Moment) : Step AccountId
  /-- The hook at the start of a block. -/
  | onInitialize (height : BlockNumber) : Step AccountId
  /-- The hook at the end of a block. -/
  | onFinalize (height : BlockNumber) : Step AccountId

/-- The calls of the deposit-loan pallet and the hooks of a block. -/
def Step.isDepositLoan : Step AccountId → Bool
  | .extrinsic _ (.depositLoan _) => true
  | .onInitialize _ => true
  | .onFinalize _ => true
  | _ => false

/-- What a call does. -/
def dispatch (origin : Origin AccountId) : Call AccountId → Prog β AccountId Unit
  | .depositLoan call => DepositLoan.dispatch origin call
  | .genericAsset call => do
    let key ← gets fun s => s.sudoKey
    zoom RuntimeState.assetsLens (GenericAsset.dispatch key origin call)
  | .newOracle call => zoom RuntimeState.oracleLens (NewOracle.dispatch origin call)

/-- The program of a step. -/
def Step.exec : Step AccountId → Prog β AccountId Unit
  | .extrinsic origin call => dispatch origin call
  | .timestamp now => modify fun s => { s with now := now }
  | .onInitialize height => DepositLoan.onInitialize height
  | .onFinalize height => zoom RuntimeState.oracleLens (NewOracle.onFinalize height)

/-- What becomes of the chain when the program of a step panics. -/
def Step.onPanic (s : RuntimeState AccountId) : Step AccountId → Option (RuntimeState AccountId)
  | .extrinsic _ _ => some s
  | _ => none

/-- **A transition of the chain**, in the release build. -/
def next (i : Step AccountId) (s : RuntimeState AccountId) : Option (RuntimeState AccountId) :=
  match (i.exec : Prog .release AccountId Unit) s with
  | .ok _ s' => some s'
  | .err _ s' => some s'
  | .panic => i.onPanic s

/-- One block of the chain: its number, its timestamp and its extrinsics. -/
structure Block (AccountId : Type) where
  number : BlockNumber
  now : Moment
  extrinsics : List (Origin AccountId × Call AccountId)

/-- The steps of a block. -/
def Block.steps (b : Block AccountId) : List (Step AccountId) :=
  .onInitialize b.number :: .timestamp b.now ::
    b.extrinsics.map (fun e => .extrinsic e.1 e.2) ++ [.onFinalize b.number]

/-! ### One step -/

section Steps

variable {i : Step AccountId} {s s' : RuntimeState AccountId}

/-- **Where a step leads**: to the final state of its program or, if that is an
extrinsic that panics, nowhere. -/
theorem next_eq_some (h : next i s = some s') :
    (i.exec : Prog .release AccountId Unit) s = .ok () s' ∨
      (∃ e, (i.exec : Prog .release AccountId Unit) s = .err e s') ∨ s' = s := by
  unfold next at h
  split at h
  · rename_i hx
    cases h
    exact Or.inl hx
  · rename_i e _ hx
    cases h
    exact Or.inr (Or.inl ⟨e, hx⟩)
  · cases i <;> simp_all [Step.onPanic]

/-- **The step rule**: what the program of a step establishes whether or not it
returns an error, and what the old state has, the new state has. -/
theorem next_of_wp {R : RuntimeState AccountId → Prop} (h : next i s = some s')
    (hwp : wp (i.exec : Prog .release AccountId Unit) (fun _ t => R t) (fun _ t => R t) True s)
    (hs : R s) : R s' := by
  rcases next_eq_some h with hx | ⟨e, hx⟩ | rfl
  · exact (wp_of_ok hx).mp hwp
  · exact (wp_of_err hx).mp hwp
  · exact hs

/-- What the program of a step establishes whether or not it returns an error, the new state
has, if the program does not panic. -/
theorem next_of_total {R : RuntimeState AccountId → Prop} (h : next i s = some s')
    (hwp : wp (i.exec : Prog .release AccountId Unit) (fun _ t => R t) (fun _ t => R t) False s) :
    R s' := by
  refine of_settled hwp (fun _ _ hx => ?_) (fun _ _ hx => ?_) (fun _ hno _ => hno.elim) h
  · rw [next, hx]
  · rw [next, hx]

end Steps

/-! ### Genesis -/

/-- The genesis configuration of the oracle. -/
structure OracleConfig where
  cryptoPriceSources : List (StrBytes × List (StrBytes × StrBytes × List StrBytes))
  currentPrice : List (StrBytes × PriceInUSDT)

/-- The genesis storage of the oracle. -/
def OracleConfig.build (config : OracleConfig) : NewOracle.Store where
  cryptoPriceSources := config.cryptoPriceSources.foldl (fun m e => m.insert e.1 e.2) .empty
  priceCandidates := .empty
  currentPrice := config.currentPrice.foldl (fun m e => m.insert e.1 e.2) .empty
  nextAggregateAt := 0

/-- The genesis configuration of the runtime. -/
structure GenesisConfig (AccountId : Type) where
  genericAsset : GenericAsset.GenesisConfig AccountId
  newOracle : OracleConfig
  depositLoan : DepositLoan.GenesisConfig AccountId
  sudoKey : AccountId

/-- **The genesis state**, or `none` if the genesis storage cannot be built. -/
def GenesisConfig.build (config : GenesisConfig AccountId) : Option (RuntimeState AccountId) :=
  match (config.genericAsset.build config.sudoKey : GenericAsset.Prog .release AccountId Unit)
      .empty with
  | .ok _ assets => some
    { assets := assets
      oracle := config.newOracle.build
      saving := config.depositLoan.build
      now := 0
      sudoKey := config.sudoKey }
  | _ => none

/-- The genesis storage of the deposit-loan pallet is the configured one. -/
theorem GenesisConfig.saving_of_build
    {config : GenesisConfig AccountId} {s : RuntimeState AccountId}
    (h : config.build = some s) : s.saving = config.depositLoan.build := by
  unfold GenesisConfig.build at h
  split at h
  · cases h
    rfl
  · cases h

/-- The genesis storage of the oracle is the configured one. -/
theorem GenesisConfig.oracle_of_build
    {config : GenesisConfig AccountId} {s : RuntimeState AccountId}
    (h : config.build = some s) : s.oracle = config.newOracle.build := by
  unfold GenesisConfig.build at h
  split at h
  · cases h
    rfl
  · cases h

/-- The genesis storage of the ledger is the one its configuration builds. -/
theorem GenesisConfig.assets_of_build
    {config : GenesisConfig AccountId} {s : RuntimeState AccountId}
    (h : config.build = some s) :
    (config.genericAsset.build config.sudoKey : GenericAsset.Prog .release AccountId Unit) .empty =
      .ok () s.assets := by
  unfold GenesisConfig.build at h
  split at h
  · rename_i hx
    cases h
    exact hx
  · cases h

/-- The accounts of a testnet. -/
structure TestnetAccounts (AccountId : Type) where
  root : AccountId
  collection : AccountId
  liquidation : AccountId
  pawnShop : AccountId
  profitPool : AccountId

/-- The symbol of the savings asset: `DUSD`. -/
def dusd : StrBytes := [68, 85, 83, 68]

/-- The symbol of the collateral asset: `BTC`. -/
def btc : StrBytes := [66, 84, 67]

/-- **`testnet_genesis`**, for given accounts. The sources of the oracle are left
out. -/
def testnetGenesis (accounts : TestnetAccounts AccountId) : GenesisConfig AccountId where
  genericAsset :=
    { nextAssetId := 5
      assets := []
      initialBalance := 0
      endowedAccounts := []
      symbols := [(0, dusd), (1, btc)] }
  newOracle := { cryptoPriceSources := [], currentPrice := [(dusd, 10000)] }
  depositLoan :=
    { collectionAssetId := 0
      profitAssetId := 0
      loanInterestRateCurrent := 0
      collateralAssetId := 1
      loanAssetId := 0
      globalLTVLimit := 66666667
      globalLiquidationThreshold := 100000000
      globalWarningThreshold := 50000000
      nextLoanId := 0
      penaltyRate := 50
      minimumCollateral := 0
      liquidationPenalty := 1300
      collectionAccountId := accounts.collection
      liquidationAccount := accounts.liquidation
      pawnShop := accounts.pawnShop
      profitPool := accounts.profitPool
      marketDtoken := 0
      totalDtoken := 0
      savingInterestRate := 0 }
  sudoKey := accounts.root

/-! ### An example -/

/-- The accounts of the example. -/
def exampleAccounts : TestnetAccounts ℕ where
  root := 9
  collection := 1
  liquidation := 3
  pawnShop := 2
  profitPool := 4

/-- A testnet in which the collection account, the liquidation account and the users
5 and 6 hold something from the start, and the collateral, which has no symbol, has a
price. -/
def exampleConfig : GenesisConfig ℕ :=
  { testnetGenesis exampleAccounts with
    genericAsset :=
      { nextAssetId := 5
        assets := [0, 1]
        initialBalance := 10 ^ 30
        endowedAccounts := [1, 3, 5, 6]
        symbols := [] }
    newOracle := { cryptoPriceSources := [], currentPrice := [([], 100)] } }

/-- The genesis state of the example. -/
def exampleState : RuntimeState ℕ := exampleConfig.build.get (by decide +kernel)

theorem exampleConfig_build : exampleConfig.build = some exampleState := (Option.some_get _).symm

/-- A signed call of the deposit-loan pallet. -/
def signedCall (who : ℕ) (call : DepositLoan.Call ℕ) : Step ℕ :=
  .extrinsic (.signed who) (.depositLoan call)

end MoneyPool
