import MoneyPool.Types

/-!
# The generic-asset pallet

The ledger of all assets: who holds how much of what, free or reserved, under
which permissions an asset is minted and burned, and which locks stand behind a
reserved balance. The functions are those of the pallet, in its order, over the
storage record `MoneyPool.GenericAsset.Store`.

Two things are parameters. The account of the administrator belongs to the sudo
pallet, and `twox_64`, which turns an encoded asset id into a lock identifier, to
the host. Events are not modelled: nothing reads them.
-/

namespace MoneyPool

namespace GenericAsset

open Pallet Pallet.Exec

variable {AccountId : Type} {β : Build}

/-! ### Assets and permissions -/

/-- Owner of an asset. -/
inductive Owner (AccountId : Type) where
  /-- No owner. -/
  | none : Owner AccountId
  /-- Owned by an account. -/
  | address (account : AccountId) : Owner AccountId
  deriving DecidableEq

/-- Asset permissions. -/
structure PermissionsV1 (AccountId : Type) where
  /-- Who may update the permissions. -/
  update : Owner AccountId
  /-- Who may mint. -/
  mint : Owner AccountId
  /-- Who may burn. -/
  burn : Owner AccountId

/-- Versioned asset permissions. -/
inductive PermissionVersions (AccountId : Type) where
  | v1 (payload : PermissionsV1 AccountId) : PermissionVersions AccountId

instance : Inhabited (PermissionVersions AccountId) := ⟨.v1 ⟨.none, .none, .none⟩⟩

/-- The permissions in their latest version. -/
def PermissionVersions.latest : PermissionVersions AccountId → PermissionsV1 AccountId
  | .v1 payload => payload

/-- What a permission is asked for. -/
inductive PermissionType where
  | burn
  | mint
  | update

/-- Asset creation options. -/
structure AssetOptions (AccountId : Type) where
  /-- Initial issuance of the asset, deposited to its creator. -/
  initialIssuance : Balance
  /-- The permissions of the asset. -/
  permissions : PermissionsV1 AccountId

/-- Lock identifiers, `[u8; 8]`. -/
abbrev LockIdentifier : Type := BitVec 64

/-- A lock behind a reserved balance. -/
structure BalanceLock where
  id : BitVec 128
  assetId : AssetId
  amount : Balance
  deriving DecidableEq

/-- **The storage** of the pallet. -/
structure Store (AccountId : Type) where
  /-- Total issuance of an asset. -/
  totalIssuance : StorageMap AssetId Balance
  /-- The free balance of an asset under an account. -/
  freeBalance : StorageMap (AssetId × AccountId) Balance
  /-- The reserved balance of an asset under an account. -/
  reservedBalance : StorageMap (AssetId × AccountId) Balance
  /-- The symbols of the registered assets. -/
  symbols : StorageMap AssetId StrBytes
  /-- Next available id for user-created assets. -/
  nextAssetId : AssetId
  /-- Permissions of an asset. -/
  permissions : StorageMap AssetId (PermissionVersions AccountId)
  /-- The id of the next lock. -/
  nextLockId : BitVec 128
  /-- The locks of an account under a lock identifier. -/
  locks : StorageMap (LockIdentifier × AccountId) (List BalanceLock)

/-- The storage before anything is written. -/
def Store.empty : Store AccountId where
  totalIssuance := .empty
  freeBalance := .empty
  reservedBalance := .empty
  symbols := .empty
  nextAssetId := 0
  permissions := .empty
  nextLockId := 1
  locks := .empty

variable [DecidableEq AccountId]

/-- A program of the pallet. -/
abbrev Prog (β : Build) (AccountId α : Type) : Type := Exec β (Store AccountId) DispatchError α

/-- Fail with an error of the pallet. -/
def error (e : Error) : DispatchError := .genericAsset e

/-! ### Reading and writing balances -/

/-- An account's free balance of an asset. -/
def Store.free (s : Store AccountId) (assetId : AssetId) (who : AccountId) : Balance :=
  s.freeBalance.get (assetId, who)

/-- An account's reserved balance of an asset. -/
def Store.reserved (s : Store AccountId) (assetId : AssetId) (who : AccountId) : Balance :=
  s.reservedBalance.get (assetId, who)

/-- Overwrite a free balance. -/
def Store.setFree (s : Store AccountId) (assetId : AssetId) (who : AccountId)
    (balance : Balance) : Store AccountId :=
  { s with freeBalance := s.freeBalance.insert (assetId, who) balance }

/-- Overwrite a reserved balance. -/
def Store.setReserved (s : Store AccountId) (assetId : AssetId) (who : AccountId)
    (balance : Balance) : Store AccountId :=
  { s with reservedBalance := s.reservedBalance.insert (assetId, who) balance }

/-- Whether an asset is registered. -/
def Store.assetIdExists (s : Store AccountId) (assetId : AssetId) : Bool :=
  s.symbols.containsKey assetId

/-- Check permission to burn, mint or update. -/
def Store.checkPermission (s : Store AccountId) (assetId : AssetId) (who : AccountId)
    (what : PermissionType) : Bool :=
  match what, (s.permissions.get assetId).latest with
  | .burn, { burn := .address account, .. } => account = who
  | .mint, { mint := .address account, .. } => account = who
  | .update, { update := .address account, .. } => account = who
  | _, _ => false

/-! ### Minting, burning and creating -/

/-- Mint to an account's free balance. -/
def mintFree (assetId : AssetId) (who toAccount : AccountId) (amount : Balance) :
    Prog β AccountId Unit := do
  ensure ((← gets fun s => s.checkPermission assetId who .mint) = true) (error .noMintPermission)
  let originalFreeBalance ← gets fun s => s.free assetId toAccount
  let currentTotalIssuance ← gets fun s => s.totalIssuance.get assetId
  let newTotalIssuance ←
    okOr (checkedAdd currentTotalIssuance amount) (error .totalMintingOverflow)
  let value ← okOr (checkedAdd originalFreeBalance amount) (error .freeMintingOverflow)
  modify fun s => { s with totalIssuance := s.totalIssuance.insert assetId newTotalIssuance }
  modify fun s => s.setFree assetId toAccount value

/-- Burn an account's free balance. -/
def burnFree (assetId : AssetId) (who toAccount : AccountId) (amount : Balance) :
    Prog β AccountId Unit := do
  ensure ((← gets fun s => s.checkPermission assetId who .burn) = true) (error .noBurnPermission)
  let originalFreeBalance ← gets fun s => s.free assetId toAccount
  let currentTotalIssuance ← gets fun s => s.totalIssuance.get assetId
  let newTotalIssuance ←
    okOr (checkedSub currentTotalIssuance amount) (error .totalBurningUnderflow)
  let value ← okOr (checkedSub originalFreeBalance amount) (error .freeBurningUnderflow)
  modify fun s => { s with totalIssuance := s.totalIssuance.insert assetId newTotalIssuance }
  modify fun s => s.setFree assetId toAccount value

/-- The id an asset is created under: the given one, if it is reserved and still
free, or the next available one. -/
def takeAssetId : Option AssetId → Prog β AccountId AssetId
  | some assetId => do
    ensure ((← gets fun s => s.totalIssuance.containsKey assetId) = false) (error .idAlreadyTaken)
    ensure (assetId < (← gets fun s => s.nextAssetId)) (error .idUnavailable)
    pure assetId
  | none => do
    let assetId ← gets fun s => s.nextAssetId
    let nextId ← okOr (checkedAdd assetId 1) (error .noIdAvailable)
    modify fun s => { s with nextAssetId := nextId }
    pure assetId

/-- Create an asset. -/
def createAsset [Inhabited AccountId] (assetId : Option AssetId)
    (fromAccount : Option AccountId) (options : AssetOptions AccountId) :
    Prog β AccountId Unit := do
  let assetId ← takeAssetId assetId
  let accountId := fromAccount.getD default
  let permissions := PermissionVersions.v1 options.permissions
  modify fun s =>
    { s with totalIssuance := s.totalIssuance.insert assetId options.initialIssuance }
  modify fun s => s.setFree assetId accountId options.initialIssuance
  modify fun s => { s with permissions := s.permissions.insert assetId permissions }

/-! ### Transfers -/

/-- Move some free balance from one account to another. -/
def makeTransfer (assetId : AssetId) (fromAccount toAccount : AccountId) (amount : Balance) :
    Prog β AccountId Unit := do
  ensure (amount ≤ (← gets fun s => s.free assetId fromAccount)) (error .insufficientBalance)
  if fromAccount ≠ toAccount then do
    let newFrom ← sub (← gets fun s => s.free assetId fromAccount) amount
    modify fun s => s.setFree assetId fromAccount newFrom
    let newTo ← add (← gets fun s => s.free assetId toAccount) amount
    modify fun s => s.setFree assetId toAccount newTo
  else pure ()

/-- `MoneyPool.GenericAsset.makeTransfer`, and an event. -/
def makeTransferWithEvent (assetId : AssetId) (fromAccount toAccount : AccountId)
    (amount : Balance) : Prog β AccountId Unit :=
  makeTransfer assetId fromAccount toAccount amount

/-! ### Reserving and locks -/

/-- The bytes of an encoded asset id: little-endian. -/
def encodeAssetId (assetId : AssetId) : List UInt8 :=
  [assetId, assetId >>> 8, assetId >>> 16, assetId >>> 24].map fun b => UInt8.ofNat b.toNat

/-- The next lock id, which is used up. -/
def takeLockId : Prog β AccountId (BitVec 128) := do
  let id ← gets fun s => s.nextLockId
  let next ← add id 1
  modify fun s => { s with nextLockId := next }
  pure id

section Locks

variable (twox64 : List UInt8 → LockIdentifier)

/-- The lock identifier of an asset. -/
def genericAssetLockIdentifier (assetId : AssetId) : LockIdentifier :=
  twox64 (encodeAssetId assetId)

/-- Record a lock. -/
def setLock (assetId : AssetId) (who : AccountId) (amount : Balance) :
    Prog β AccountId (BitVec 128) := do
  let lockId ← takeLockId
  let newLock : BalanceLock := { id := lockId, assetId := assetId, amount := amount }
  let identifier := genericAssetLockIdentifier twox64 assetId
  modify fun s => { s with locks := s.locks.mutate (identifier, who) fun ls => ls ++ [newLock] }
  pure lockId

/-- The locks without the first one that has the given id. -/
def dropFirstLock (lockId : BitVec 128) : List BalanceLock → List BalanceLock
  | [] => []
  | l :: ls => if l.id = lockId then ls else l :: dropFirstLock lockId ls

/-- Delete a lock. -/
def removeLock (identifier : LockIdentifier) (who : AccountId) (lockId : BitVec 128) :
    Prog β AccountId Unit := do
  let locks ← gets fun s => s.locks.get (identifier, who)
  let newLocks := dropFirstLock lockId locks
  if locks.length - newLocks.length = 1 then
    modify fun s => { s with locks := s.locks.insert (identifier, who) newLocks }
  else pure ()

/-- Whether an account has a lock of the given id. -/
def Store.lockIdExists (s : Store AccountId) (identifier : LockIdentifier) (who : AccountId)
    (lockId : BitVec 128) : Bool :=
  (s.locks.get (identifier, who)).any fun l => l.id = lockId

/-- The id of an account's first lock of the given amount. -/
def Store.findLockIdByAmount (s : Store AccountId) (identifier : LockIdentifier)
    (who : AccountId) (amount : Balance) : Option (BitVec 128) :=
  ((s.locks.get (identifier, who)).find? fun l => l.amount = amount).map BalanceLock.id

/-- Move `amount` from free balance to reserved balance. -/
def reserve (assetId : AssetId) (who : AccountId) (amount : Balance) :
    Prog β AccountId (BitVec 128) := do
  let originalReserveBalance ← gets fun s => s.reserved assetId who
  let originalFreeBalance ← gets fun s => s.free assetId who
  ensure (amount ≤ originalFreeBalance) (error .insufficientBalance)
  let newReserveBalance ← add originalReserveBalance amount
  modify fun s => s.setReserved assetId who newReserveBalance
  let newFreeBalance ← sub originalFreeBalance amount
  modify fun s => s.setFree assetId who newFreeBalance
  setLock twox64 assetId who amount

/-- The lock an `unreserve` releases: the given one if the account has it, or the
first of the right amount. -/
def validLockId (identifier : LockIdentifier) (who : AccountId) (amount : Balance) :
    Option (BitVec 128) → Prog β AccountId (BitVec 128)
  | some lockId => do
    ensure ((← gets fun s => s.lockIdExists identifier who lockId) = true) (error .missingLock)
    pure lockId
  | none => do
    okOr (← gets fun s => s.findLockIdByAmount identifier who amount)
      (error .noLockMeetRequirement)

/-- Move `amount` from reserved balance to free balance and release a lock. -/
def unreserve (assetId : AssetId) (who : AccountId) (amount : Balance)
    (lockId : Option (BitVec 128)) : Prog β AccountId Unit := do
  let reservedBalance ← gets fun s => s.reserved assetId who
  ensure (amount ≤ reservedBalance) (error .insufficientReservedBalance)
  let idf := genericAssetLockIdentifier twox64 assetId
  let validLockId ← validLockId idf who amount lockId
  removeLock idf who validLockId
  let originalFreeBalance ← gets fun s => s.free assetId who
  let newFreeBalance ← add originalFreeBalance amount
  modify fun s => s.setFree assetId who newFreeBalance
  let newReservedBalance ← sub reservedBalance amount
  modify fun s => s.setReserved assetId who newReservedBalance

end Locks

/-! ### The calls -/

/-- The dispatchable calls. -/
inductive Call (AccountId : Type) where
  | create (initialIssuance : Balance) (symbol : StrBytes) : Call AccountId
  | transfer (assetId : AssetId) (toAccount : AccountId) (amount : Balance) : Call AccountId
  | updatePermission (assetId : AssetId) (newPermission : PermissionsV1 AccountId) :
      Call AccountId
  | mint (assetId : AssetId) (toAccount : AccountId) (amount : Balance) : Call AccountId
  | burn (assetId : AssetId) (toAccount : AccountId) (amount : Balance) : Call AccountId
  | createReserved (assetId : AssetId) (options : AssetOptions AccountId) : Call AccountId

/-- All permissions in the hands of one account. -/
def PermissionsV1.all (account : AccountId) : PermissionsV1 AccountId where
  update := .address account
  mint := .address account
  burn := .address account

variable [Inhabited AccountId]

/-- Create a new kind of asset. -/
def create (key : AccountId) (origin : Origin AccountId) (initialIssuance : Balance)
    (symbol : StrBytes) : Prog β AccountId Unit := do
  ensureRoot origin
  let options : AssetOptions AccountId :=
    { initialIssuance := initialIssuance, permissions := .all key }
  let assetId ← gets fun s => s.nextAssetId
  createAsset none (some key) options
  modify fun s => { s with symbols := s.symbols.insert assetId symbol }

/-- Transfer some free balance to another account. -/
def transfer (origin : Origin AccountId) (assetId : AssetId) (toAccount : AccountId)
    (amount : Balance) : Prog β AccountId Unit := do
  let who ← ensureSigned origin
  ensure (amount ≠ 0) (error .zeroAmount)
  makeTransferWithEvent assetId who toAccount amount

/-- Update the permissions of an asset. -/
def updatePermission (origin : Origin AccountId) (assetId : AssetId)
    (newPermission : PermissionsV1 AccountId) : Prog β AccountId Unit := do
  let who ← ensureSigned origin
  ensure ((← gets fun s => s.checkPermission assetId who .update) = true)
    (error .noUpdatePermission)
  modify fun s => { s with permissions := s.permissions.insert assetId (.v1 newPermission) }

/-- Mint an asset. -/
def mint (origin : Origin AccountId) (assetId : AssetId) (toAccount : AccountId)
    (amount : Balance) : Prog β AccountId Unit := do
  let who ← ensureSigned origin
  mintFree assetId who toAccount amount

/-- Burn an asset. -/
def burn (origin : Origin AccountId) (assetId : AssetId) (toAccount : AccountId)
    (amount : Balance) : Prog β AccountId Unit := do
  let who ← ensureSigned origin
  burnFree assetId who toAccount amount

/-- Create an asset under a reserved id. -/
def createReserved (origin : Origin AccountId) (assetId : AssetId)
    (options : AssetOptions AccountId) : Prog β AccountId Unit := do
  ensureRoot origin
  createAsset (some assetId) none options

/-- What a call does. -/
def dispatch (key : AccountId) (origin : Origin AccountId) :
    Call AccountId → Prog β AccountId Unit
  | .create initialIssuance symbol => create key origin initialIssuance symbol
  | .transfer assetId toAccount amount => transfer origin assetId toAccount amount
  | .updatePermission assetId newPermission => updatePermission origin assetId newPermission
  | .mint assetId toAccount amount => mint origin assetId toAccount amount
  | .burn assetId toAccount amount => burn origin assetId toAccount amount
  | .createReserved assetId options => createReserved origin assetId options

/-! ### Genesis -/

/-- The genesis configuration of the pallet. -/
structure GenesisConfig (AccountId : Type) where
  assets : List AssetId
  initialBalance : Balance
  endowedAccounts : List AccountId
  symbols : List (AssetId × StrBytes)
  nextAssetId : AssetId

/-- Write the genesis storage. The number of endowed accounts is cast to a `u32`
before the issuance is computed from it. -/
def GenesisConfig.build (config : GenesisConfig AccountId) (key : AccountId) :
    Prog β AccountId Unit := do
  let issuance ← mul config.initialBalance
    ((BitVec.ofNat 32 config.endowedAccounts.length).setWidth 128)
  modify fun s => { s with
    totalIssuance := config.assets.foldl (fun m id => m.insert id issuance) s.totalIssuance
    symbols := config.symbols.foldl (fun m e => m.insert e.1 e.2) s.symbols
    nextAssetId := config.nextAssetId }
  forEach config.assets fun assetId => forEach config.endowedAccounts fun accountId =>
    modify fun s => s.setFree assetId accountId config.initialBalance
  let options : AssetOptions AccountId := { initialIssuance := 0, permissions := .all key }
  forEach config.symbols fun i => expectOk (createAsset (some i.1) (some key) options)

end GenericAsset

end MoneyPool
