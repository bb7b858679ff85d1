import MoneyPool.GenericAsset.Conservation

/-!
# The bridge pallet

Deposits of bitcoin are credited as an asset of the ledger, once for each transaction.
A large deposit of an account that is not on the white list waits in a list of its own
until the account is marked. Withdrawals move the asset into a vault and wait there until
they are finished or refunded.

The runtime does not include the pallet, and so it has a state of its own here: its
storage, the ledger it works on, the account of the administrator and its events. The
flag that pauses the pallet is written and never read.
-/

namespace MoneyPool

namespace Bridge

open Pallet Pallet.Exec

variable {AccountId : Type} {β : Build}

/-! ### The storage -/

/-- What an account is marked as. -/
inductive BlackOrWhite where
  | black
  | white
  deriving DecidableEq

instance : Inhabited BlackOrWhite := ⟨.black⟩

/-- What an administrator of the bridge may do. -/
inductive Auth where
  | all
  | deposit
  | withdraw
  | refund
  | mark
  deriving DecidableEq

instance : Inhabited Auth := ⟨.all⟩

/-- `TxHash`, a `H256`. -/
abbrev TxHash : Type := BitVec 256

/-- A deposit. -/
structure Deposit (AccountId : Type) where
  /-- The account that receives the amount. -/
  accountId : AccountId
  /-- The hash of the transaction, if it is recorded. -/
  txHash : Option TxHash
  amount : Balance
  deriving DecidableEq

/-- The events of the pallet. -/
inductive Event (AccountId : Type) where
  | accountMarked (account : AccountId) (bow : BlackOrWhite) : Event AccountId
  | deposit (account : AccountId) (amount : Balance) (txHash : TxHash) : Event AccountId
  | pending (account : AccountId) (amount : Balance) (txHash : TxHash) : Event AccountId
  | pendingWithdraw (account : AccountId) (amount : Balance) : Event AccountId
  | refund (account : AccountId) (amount : Balance) : Event AccountId
  | withdraw (account : AccountId) (amount : Balance) : Event AccountId
  deriving DecidableEq

/-- **The storage** of the pallet. -/
structure Store (AccountId : Type) where
  /-- The asset that stands for bitcoin. -/
  assetId : AssetId
  paused : Bool
  /-- How accounts are marked. -/
  list : StorageMap AccountId BlackOrWhite
  /-- A deposit of this amount or more needs a mark. -/
  threshold : Balance
  admins : StorageMap AccountId Auth
  /-- The deposits of an account that wait for its mark. -/
  pendingDepositList : StorageMap AccountId (List (Deposit AccountId))
  /-- The transactions that have been seen. -/
  depositHistory : StorageMap TxHash (Deposit AccountId)
  /-- The amounts that an account has asked for. -/
  pendingWithdraws : StorageMap AccountId (List Balance)
  /-- The account that holds what was asked for. -/
  pendingWithdrawVault : AccountId

/-- **The state** the pallet works on. -/
structure State (AccountId : Type) where
  assets : GenericAsset.Store AccountId
  bridge : Store AccountId
  sudoKey : AccountId
  /-- The events deposited so far. -/
  events : List (Event AccountId)

/-- A program of the pallet. -/
abbrev Prog (β : Build) (AccountId α : Type) : Type := Exec β (State AccountId) DispatchError α

/-- The ledger, as a part of the state. -/
@[reducible] def State.assetsLens : Lens (State AccountId) (GenericAsset.Store AccountId) where
  get s := s.assets
  set t s := { s with assets := t }
  get_set _ _ := rfl
  set_get _ := rfl
  set_set _ _ _ := rfl

/-- Rewrite the storage of the pallet. -/
@[reducible] def State.withBridge (f : Store AccountId → Store AccountId) (s : State AccountId) :
    State AccountId :=
  { s with bridge := f s.bridge }

/-- Deposit an event. -/
def depositEvent (e : Event AccountId) : Prog β AccountId Unit :=
  modify fun s => { s with events := s.events ++ [e] }

variable [DecidableEq AccountId]

/-! ### Checks -/

/-- Whether a transaction has been seen. -/
def Store.isTxSeen (s : Store AccountId) (txHash : TxHash) : Bool :=
  s.depositHistory.containsKey txHash

/-- Whether an account has an authority. -/
def Store.hasAuth (s : Store AccountId) (accountId : AccountId) (auth : Auth) : Bool :=
  if s.admins.containsKey accountId = false then false
  else s.admins.get accountId = .all ∨ s.admins.get accountId = auth

/-- How an account is marked, if it is. -/
def Store.checkList (s : Store AccountId) (accountId : AccountId) : Option BlackOrWhite :=
  if s.list.containsKey accountId = true then some (s.list.get accountId) else none

/-! ### Deposits -/

/-- Credit a deposit, which counts as seen even if it cannot be credited. -/
def simpleDepositWithEvent (accountId : AccountId) (amount : Balance) (txHash : TxHash) :
    Prog β AccountId Unit := do
  let dep : Deposit AccountId := { txHash := none, amount := amount, accountId := accountId }
  modify (State.withBridge fun t =>
    { t with depositHistory := t.depositHistory.insert txHash dep })
  let assetId ← gets fun s => s.bridge.assetId
  let key ← gets fun s => s.sudoKey
  zoom State.assetsLens (GenericAsset.mintFree assetId key accountId amount)
  depositEvent (.deposit accountId amount txHash)

/-- Hold a deposit until its account is marked. -/
def holdDepositWithEvent (accountId : AccountId) (amount : Balance) (txHash : TxHash) :
    Prog β AccountId Unit := do
  let dep : Deposit AccountId := { txHash := none, amount := amount, accountId := accountId }
  modify (State.withBridge fun t =>
    { t with depositHistory := t.depositHistory.insert txHash dep })
  let dep := { dep with txHash := some txHash }
  modify (State.withBridge fun t =>
    { t with pendingDepositList := t.pendingDepositList.mutate accountId fun v => v ++ [dep] })
  depositEvent (.pending accountId amount txHash)

/-- Report a deposit. -/
def deposit (origin : Origin AccountId) (accountId : AccountId) (amount : Balance)
    (txHash : TxHash) : Prog β AccountId Unit := do
  ensure ((← gets fun s => s.bridge.isTxSeen txHash) = false) (.other "repeated transaction")
  let who ← ensureSigned origin
  ensure ((← gets fun s => s.bridge.hasAuth who .deposit) = true) (.other "no deposit auth")
  let threshold ← gets fun s => s.bridge.threshold
  let bow ← gets fun s => s.bridge.checkList accountId
  if threshold ≤ amount ∧ (bow = none ∨ bow = some .black) then
    holdDepositWithEvent accountId amount txHash
  else simpleDepositWithEvent accountId amount txHash

/-! ### Marks -/

/-- Mark an account. -/
def mark (accountId : AccountId) (bow : BlackOrWhite) : Prog β AccountId Unit :=
  modify (State.withBridge fun t => { t with list := t.list.insert accountId bow })

def markWithEvent (accountId : AccountId) (bow : BlackOrWhite) : Prog β AccountId Unit := do
  mark accountId bow
  depositEvent (.accountMarked accountId bow)

/-- Take the deposits of an account that wait for its mark. -/
def takePendings (accountId : AccountId) : Prog β AccountId (List (Deposit AccountId)) := do
  let pendings ← gets fun s => s.bridge.pendingDepositList.get accountId
  modify (State.withBridge fun t =>
    { t with pendingDepositList := t.pendingDepositList.remove accountId })
  pure pendings

/-- Mark an account black. The deposits that wait may be reported again. -/
def markBlack (origin : Origin AccountId) (accountId : AccountId) : Prog β AccountId Unit := do
  let who ← ensureSigned origin
  ensure ((← gets fun s => s.bridge.hasAuth who .mark) = true) (.other "no mark auth")
  let pendings ← takePendings accountId
  forEach pendings fun v => do
    let txHash ← unwrap v.txHash
    modify (State.withBridge fun t =>
      { t with depositHistory := t.depositHistory.remove txHash })
  markWithEvent accountId .black

/-- Credit deposits that have waited. The first one that cannot be credited is put back,
with all that follow. -/
def creditPendings (accountId : AccountId) : List (Deposit AccountId) → Prog β AccountId Unit
  | [] => pure ()
  | p :: ps => do
    let _ ← unwrap p.txHash
    let txHash ← unwrap p.txHash
    orElse (simpleDepositWithEvent p.accountId p.amount txHash) fun err => do
      modify (State.withBridge fun t =>
        { t with pendingDepositList := t.pendingDepositList.insert accountId (p :: ps) })
      fail err
    creditPendings accountId ps

/-- Mark an account white, and credit what has waited for it. -/
def markWhite (origin : Origin AccountId) (accountId : AccountId) : Prog β AccountId Unit := do
  let who ← ensureSigned origin
  ensure ((← gets fun s => s.bridge.hasAuth who .mark) = true) (.other "no mark auth")
  let pendings ← takePendings accountId
  creditPendings accountId pendings
  markWithEvent accountId .white

/-! ### Withdrawals -/

/-- The amounts without the first one that is the given one. -/
def dropFirstAmount (amount : Balance) : Bool → List Balance → List Balance
  | _, [] => []
  | found, amt :: amts =>
    if found = true ∨ amt ≠ amount then amt :: dropFirstAmount amount found amts
    else dropFirstAmount amount true amts

/-- Take an amount off what an account has asked for. -/
def removeFromPendingWithdraws (who : AccountId) (amount : Balance) : Prog β AccountId Unit := do
  let pendings ← gets fun s => s.bridge.pendingWithdraws.get who
  modify (State.withBridge fun t => { t with pendingWithdraws := t.pendingWithdraws.remove who })
  if 1 < pendings.length then
    let x := dropFirstAmount amount false pendings
    modify (State.withBridge fun t =>
      { t with pendingWithdraws := t.pendingWithdraws.insert who x })
  else pure ()

/-- Give back what an account has asked for. -/
def refund (origin : Origin AccountId) (who : AccountId) (amount : Balance) :
    Prog β AccountId Unit := do
  let author ← ensureSigned origin
  let assetId ← gets fun s => s.bridge.assetId
  ensure ((← gets fun s => s.bridge.hasAuth author .refund) = true) (.other "no refund auth")
  ensure (amount ∈ (← gets fun s => s.bridge.pendingWithdraws.get who))
    (.other "pending withdraw not found")
  let vault ← gets fun s => s.bridge.pendingWithdrawVault
  zoom State.assetsLens (GenericAsset.makeTransferWithEvent assetId vault who amount)
  removeFromPendingWithdraws who amount
  depositEvent (.refund who amount)

/-- Note that an account has got what it has asked for. -/
def withdrawFinish (origin : Origin AccountId) (who : AccountId) (amount : Balance) :
    Prog β AccountId Unit := do
  let author ← ensureSigned origin
  ensure ((← gets fun s => s.bridge.hasAuth author .withdraw) = true) (.other "no withdraw auth")
  ensure (amount ∈ (← gets fun s => s.bridge.pendingWithdraws.get who))
    (.other "pending withdraw not found")
  removeFromPendingWithdraws who amount
  depositEvent (.withdraw who amount)

/-- Ask for an amount, which goes to the vault. -/
def withdraw (origin : Origin AccountId) (amount : Balance) : Prog β AccountId Unit := do
  let who ← ensureSigned origin
  let assetId ← gets fun s => s.bridge.assetId
  let vault ← gets fun s => s.bridge.pendingWithdrawVault
  zoom State.assetsLens (GenericAsset.makeTransferWithEvent assetId who vault amount)
  if (← gets fun s => s.bridge.pendingWithdraws.containsKey who) = true then
    modify (State.withBridge fun t =>
      { t with pendingWithdraws := t.pendingWithdraws.mutate who fun v => v ++ [amount] })
  else
    modify (State.withBridge fun t =>
      { t with pendingWithdraws := t.pendingWithdraws.insert who [amount] })
  depositEvent (.pendingWithdraw who amount)

/-! ### The calls -/

def pause (origin : Origin AccountId) : Prog β AccountId Unit := do
  ensureRoot origin
  modify (State.withBridge fun t => { t with paused := true })

def resume (origin : Origin AccountId) : Prog β AccountId Unit := do
  ensureRoot origin
  modify (State.withBridge fun t => { t with paused := false })

/-- The dispatchable calls. -/
inductive Call (AccountId : Type) where
  | pause : Call AccountId
  | resume : Call AccountId
  | deposit (accountId : AccountId) (amount : Balance) (txHash : TxHash) : Call AccountId
  | refund (who : AccountId) (amount : Balance) : Call AccountId
  | withdrawFinish (who : AccountId) (amount : Balance) : Call AccountId
  | withdraw (amount : Balance) : Call AccountId
  | markBlack (accountId : AccountId) : Call AccountId
  | markWhite (accountId : AccountId) : Call AccountId

/-- What a call does. -/
def dispatch (origin : Origin AccountId) : Call AccountId → Prog β AccountId Unit
  | .pause => pause origin
  | .resume => resume origin
  | .deposit accountId amount txHash => deposit origin accountId amount txHash
  | .refund who amount => refund origin who amount
  | .withdrawFinish who amount => withdrawFinish origin who amount
  | .withdraw amount => withdraw origin amount
  | .markBlack accountId => markBlack origin accountId
  | .markWhite accountId => markWhite origin accountId

/-! ### The bridge as a machine -/

variable [Inhabited AccountId]

/-- **A step**: a call of the bridge, or one of the ledger. -/
inductive Step (AccountId : Type) where
  | bridge (origin : Origin AccountId) (call : Call AccountId) : Step AccountId
  | ledger (origin : Origin AccountId) (call : GenericAsset.Call AccountId) : Step AccountId

/-- The program of a step. -/
def Step.exec : Step AccountId → Prog β AccountId Unit
  | .bridge origin call => dispatch origin call
  | .ledger origin call => do
    let key ← gets fun s => s.sudoKey
    zoom State.assetsLens (GenericAsset.dispatch key origin call)

/-- **A transition**: an error keeps what was written, a panic nothing. -/
def next (β : Build) (i : Step AccountId) (s : State AccountId) : Option (State AccountId) :=
  match (i.exec : Prog β AccountId Unit) s with
  | .ok _ s' => some s'
  | .err _ s' => some s'
  | .panic => some s

/-! ### Genesis -/

/-- The genesis configuration of the bridge and its ledger. -/
structure GenesisConfig (AccountId : Type) where
  genericAsset : GenericAsset.GenesisConfig AccountId
  assetId : AssetId
  threshold : Balance
  pendingWithdrawVault : AccountId
  admins : List (AccountId × Auth)
  sudoKey : AccountId

/-- The genesis storage of the pallet. -/
def GenesisConfig.store (config : GenesisConfig AccountId) : Store AccountId where
  assetId := config.assetId
  paused := false
  list := .empty
  threshold := config.threshold
  admins := config.admins.foldl (fun m e => m.insert e.1 e.2) .empty
  pendingDepositList := .empty
  depositHistory := .empty
  pendingWithdraws := .empty
  pendingWithdrawVault := config.pendingWithdrawVault

/-- **The genesis state**, or `none` if the ledger cannot be built. -/
def GenesisConfig.build (β : Build) (config : GenesisConfig AccountId) :
    Option (State AccountId) :=
  match (config.genericAsset.build config.sudoKey : GenericAsset.Prog β AccountId Unit) .empty with
  | .ok _ assets => some
    { assets := assets
      bridge := config.store
      sudoKey := config.sudoKey
      events := [] }
  | _ => none

/-! ### An example -/

/-- A bridge for the asset 1, with the administrator 2 and the vault 7. -/
def exampleConfig : GenesisConfig ℕ where
  genericAsset :=
    { nextAssetId := 5
      assets := []
      initialBalance := 0
      endowedAccounts := []
      symbols := [(1, [66, 84, 67])] }
  assetId := 1
  threshold := 20
  pendingWithdrawVault := 7
  admins := [(2, .all)]
  sudoKey := 9

/-- The genesis state of the example. -/
def exampleState : State ℕ := (exampleConfig.build .release).get (by decide +kernel)

theorem exampleConfig_build : exampleConfig.build .release = some exampleState :=
  (Option.some_get _).symm

end Bridge

end MoneyPool
