import MoneyPool.GenericAsset.Conservation
import MoneyPool.Pallet.Atomic
import MoneyPool.Pallet.Twox

/-!
# Refused operations leave no trace

Every operation of the ledger does its checks before it writes, so that an error leaves the storage
as it was (`MoneyPool.GenericAsset.errors_atomic`). The pallets that use the ledger rely on it: what
they have been refused has not happened.
-/

namespace MoneyPool

namespace GenericAsset

open Pallet Pallet.Exec

variable {AccountId : Type} [DecidableEq AccountId] {β : Build}
  {assetId : AssetId} {who toAccount fromAccount : AccountId} {amount : Balance}

/-! ### The checks of the runtime -/

omit [DecidableEq AccountId] in
theorem reads_ensureRoot {σ : Type} (origin : Origin AccountId) :
    (ensureRoot origin : Exec β σ DispatchError Unit).Reads :=
  fun _ => wp_ensureRoot.mpr ⟨fun _ => rfl, fun _ => rfl⟩

omit [DecidableEq AccountId] in
theorem reads_ensureSigned {σ : Type} (origin : Origin AccountId) :
    (ensureSigned origin : Exec β σ DispatchError AccountId).Reads :=
  fun _ => wp_ensureSigned.mpr ⟨fun _ _ => rfl, fun _ => rfl⟩

/-! ### The operations -/

theorem atomic_mintFree : (mintFree assetId who toAccount amount : Prog β AccountId Unit).Atomic :=
  (reads_gets _).bind_atomic fun _ => (reads_ensure _ _).bind_atomic fun _ =>
    (reads_gets _).bind_atomic fun _ => (reads_gets _).bind_atomic fun _ =>
      (reads_okOr _ _).bind_atomic fun _ => (reads_okOr _ _).bind_atomic fun _ =>
        ((accepts_modify _).bind fun _ => accepts_modify _).atomic

theorem atomic_burnFree : (burnFree assetId who toAccount amount : Prog β AccountId Unit).Atomic :=
  (reads_gets _).bind_atomic fun _ => (reads_ensure _ _).bind_atomic fun _ =>
    (reads_gets _).bind_atomic fun _ => (reads_gets _).bind_atomic fun _ =>
      (reads_okOr _ _).bind_atomic fun _ => (reads_okOr _ _).bind_atomic fun _ =>
        ((accepts_modify _).bind fun _ => accepts_modify _).atomic

omit [DecidableEq AccountId] in
/-- Where an id is given out, the counter is written, and nothing can fail after that. -/
theorem atomic_takeAssetId (choice : Option AssetId) :
    (takeAssetId choice : Prog β AccountId AssetId).Atomic := by
  cases choice with
  | some assetId =>
    exact (reads_gets _).bind_atomic fun _ => (reads_ensure _ _).bind_atomic fun _ =>
      (reads_gets _).bind_atomic fun _ => (reads_ensure _ _).bind_atomic fun _ =>
        (reads_pure _).atomic
  | none =>
    exact (reads_gets _).bind_atomic fun _ => (reads_okOr _ _).bind_atomic fun _ =>
      ((accepts_modify _).bind fun _ => accepts_pure _).atomic

theorem atomic_createAsset [Inhabited AccountId] (choice : Option AssetId)
    (creator : Option AccountId) (options : AssetOptions AccountId) :
    (createAsset choice creator options : Prog β AccountId Unit).Atomic :=
  (atomic_takeAssetId choice).bind_accepts fun _ => (accepts_modify _).bind fun _ =>
    (accepts_modify _).bind fun _ => accepts_modify _

theorem atomic_makeTransfer :
    (makeTransfer assetId fromAccount toAccount amount : Prog β AccountId Unit).Atomic := by
  refine (reads_gets _).bind_atomic fun _ => (reads_ensure _ _).bind_atomic fun _ =>
    Accepts.atomic (.ite ?_ (accepts_pure _))
  exact (accepts_gets _).bind fun _ => (accepts_sub _ _).bind fun _ =>
    (accepts_modify _).bind fun _ => (accepts_gets _).bind fun _ =>
      (accepts_add _ _).bind fun _ => accepts_modify _

section Locks

variable {twox64 : List UInt8 → LockIdentifier}

theorem accepts_setLock : (setLock twox64 assetId who amount : Prog β AccountId _).Accepts := by
  have htake : (takeLockId : Prog β AccountId (BitVec 128)).Accepts :=
    (accepts_gets _).bind fun _ => (accepts_add _ _).bind fun _ =>
      (accepts_modify _).bind fun _ => accepts_pure _
  exact htake.bind fun _ => (accepts_modify _).bind fun _ => accepts_pure _

theorem accepts_removeLock (identifier : LockIdentifier) (lockId : BitVec 128) :
    (removeLock identifier who lockId : Prog β AccountId Unit).Accepts :=
  (accepts_gets _).bind fun _ => .ite (accepts_modify _) (accepts_pure _)

theorem reads_validLockId (identifier : LockIdentifier) (choice : Option (BitVec 128)) :
    (validLockId identifier who amount choice : Prog β AccountId (BitVec 128)).Reads := by
  cases choice with
  | some lockId =>
    exact (reads_gets _).bind fun _ => (reads_ensure _ _).bind fun _ => reads_pure _
  | none => exact (reads_gets _).bind fun _ => reads_okOr _ _

theorem atomic_reserve :
    (reserve twox64 assetId who amount : Prog β AccountId (BitVec 128)).Atomic := by
  refine (reads_gets _).bind_atomic fun _ => (reads_gets _).bind_atomic fun _ =>
    (reads_ensure _ _).bind_atomic fun _ => Accepts.atomic ?_
  exact (accepts_add _ _).bind fun _ => (accepts_modify _).bind fun _ =>
    (accepts_sub _ _).bind fun _ => (accepts_modify _).bind fun _ => accepts_setLock

theorem atomic_unreserve (choice : Option (BitVec 128)) :
    (unreserve twox64 assetId who amount choice : Prog β AccountId Unit).Atomic := by
  refine (reads_gets _).bind_atomic fun _ => (reads_ensure _ _).bind_atomic fun _ =>
    (reads_validLockId _ choice).bind_atomic fun _ => Accepts.atomic ?_
  exact (accepts_removeLock _ _).bind fun _ => (accepts_gets _).bind fun _ =>
    (accepts_add _ _).bind fun _ => (accepts_modify _).bind fun _ =>
      (accepts_sub _ _).bind fun _ => accepts_modify _

end Locks

/-! ### The calls -/

variable [Inhabited AccountId]

theorem atomic_dispatch (key : AccountId) (origin : Origin AccountId) (call : Call AccountId) :
    (dispatch key origin call : Prog β AccountId Unit).Atomic := by
  cases call with
  | create initialIssuance symbol =>
    refine (reads_ensureRoot origin).bind_atomic fun _ => (reads_gets _).bind_atomic fun _ => ?_
    exact (atomic_createAsset _ _ _).bind_accepts fun _ => accepts_modify _
  | transfer assetId toAccount amount =>
    exact (reads_ensureSigned origin).bind_atomic fun _ => (reads_ensure _ _).bind_atomic fun _ =>
      atomic_makeTransfer
  | updatePermission assetId newPermission =>
    exact (reads_ensureSigned origin).bind_atomic fun _ => (reads_gets _).bind_atomic fun _ =>
      (reads_ensure _ _).bind_atomic fun _ => (accepts_modify _).atomic
  | mint assetId toAccount amount =>
    exact (reads_ensureSigned origin).bind_atomic fun _ => atomic_mintFree
  | burn assetId toAccount amount =>
    exact (reads_ensureSigned origin).bind_atomic fun _ => atomic_burnFree
  | createReserved assetId options =>
    exact (reads_ensureRoot origin).bind_atomic fun _ => atomic_createAsset _ _ _

/-- **Errors are atomic.** In every state, an operation of the ledger that returns an error, a call
of any origin or a reserve or unreserve, has left the whole storage as it was. -/
theorem errors_atomic {twox64 : List UInt8 → LockIdentifier} {op : Op AccountId}
    {s t : Store AccountId} {e : DispatchError}
    (h : (op.exec β twox64 : Prog β AccountId Unit) s = .err e t) : t = s := by
  refine Atomic.eq_of_err ?_ h
  cases op with
  | extrinsic key origin call => exact atomic_dispatch key origin call
  | reserve assetId who amount => exact atomic_reserve.bind_accepts fun _ => accepts_pure _
  | unreserve assetId who amount choice => exact atomic_unreserve choice

/-- An account without anything cannot reserve. -/
theorem errors_atomic_example : ∃ e t,
    (Op.exec .release Twox.twox64 (.reserve 0 77 10) : Prog .release ℕ Unit) exampleState.assets =
      .err e t ∧ t = exampleState.assets := by
  have herr : ((Op.exec .release Twox.twox64 (.reserve 0 77 10) : Prog .release ℕ Unit)
      exampleState.assets).errState.isSome = true := by decide +kernel
  obtain ⟨t, ht⟩ := Option.isSome_iff_exists.mp herr
  obtain ⟨e, he⟩ := Outcome.eq_err_of_errState ht
  exact ⟨e, t, he, errors_atomic he⟩

end GenericAsset

end MoneyPool
