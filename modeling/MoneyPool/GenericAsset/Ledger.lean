import MoneyPool.RuntimeState

/-!
# Transfers and reserves

What a transfer does to the ledger, as a rewriting of the storage:
`MoneyPool.GenericAsset.Store.moved`. Its `Pallet.Exec.wp` rule is an
equivalence, and the programs above never unfold a transfer again. The lemmas on
`MoneyPool.GenericAsset.Store.free` say how each balance reads afterwards.

The same for the two operations on reserves: `MoneyPool.GenericAsset.Store.locked` is
the ledger after a reserve and `MoneyPool.GenericAsset.Store.unlocked` the one after the
release of a lock.
-/

namespace MoneyPool

open Pallet Pallet.Exec

variable {AccountId : Type} [DecidableEq AccountId] {β : Build}

namespace GenericAsset

variable (s : Store AccountId) (assetId asset' : AssetId) (fromAccount toAccount who : AccountId)
  (amount balance : Balance)

/-! ### Single writes -/

@[simp] theorem Store.free_setFree :
    (s.setFree assetId fromAccount balance).free asset' who =
      if asset' = assetId ∧ who = fromAccount then balance else s.free asset' who := by
  simp only [Store.free, Store.setFree, StorageMap.get_insert, Prod.mk.injEq]

@[simp] theorem Store.reserved_setFree :
    (s.setFree assetId fromAccount balance).reserved asset' who = s.reserved asset' who := rfl

@[simp] theorem Store.free_setReserved :
    (s.setReserved assetId fromAccount balance).free asset' who = s.free asset' who := rfl

/-! ### Moving an amount -/

/-- The ledger after `amount` has moved between two accounts. -/
def Store.moved : Store AccountId :=
  if fromAccount = toAccount then s
  else (s.setFree assetId fromAccount (s.free assetId fromAccount - amount)).setFree assetId
    toAccount (s.free assetId toAccount + amount)

/-- Moving an amount writes free balances only. -/
theorem Store.moved_eq : ∃ m, s.moved assetId fromAccount toAccount amount =
    { s with freeBalance := m } := by
  unfold moved
  split
  · exact ⟨_, rfl⟩
  · exact ⟨_, rfl⟩

@[simp] theorem Store.moved_symbols :
    (s.moved assetId fromAccount toAccount amount).symbols = s.symbols := by
  obtain ⟨m, hm⟩ := s.moved_eq assetId fromAccount toAccount amount
  rw [hm]

@[simp] theorem Store.moved_totalIssuance :
    (s.moved assetId fromAccount toAccount amount).totalIssuance = s.totalIssuance := by
  obtain ⟨m, hm⟩ := s.moved_eq assetId fromAccount toAccount amount
  rw [hm]

theorem Store.moved_self : s.moved assetId fromAccount fromAccount amount = s := if_pos rfl

variable {s assetId asset' fromAccount toAccount who amount}

theorem Store.free_moved_asset (h : asset' ≠ assetId) :
    (s.moved assetId fromAccount toAccount amount).free asset' who = s.free asset' who := by
  unfold moved
  split
  · rfl
  · simp [h]

theorem Store.free_moved_of_ne (hf : who ≠ fromAccount) (ht : who ≠ toAccount) :
    (s.moved assetId fromAccount toAccount amount).free asset' who = s.free asset' who := by
  unfold moved
  split
  · rfl
  · simp [hf, ht]

theorem Store.free_moved_from (h : fromAccount ≠ toAccount) :
    (s.moved assetId fromAccount toAccount amount).free assetId fromAccount =
      s.free assetId fromAccount - amount := by
  simp [moved, h]

theorem Store.free_moved_to (h : fromAccount ≠ toAccount) :
    (s.moved assetId fromAccount toAccount amount).free assetId toAccount =
      s.free assetId toAccount + amount := by
  simp [moved, h]

/-- Moving nothing leaves every balance as it was. -/
theorem Store.free_moved_zero :
    (s.moved assetId fromAccount toAccount 0).free asset' who = s.free asset' who := by
  unfold moved
  split
  · rfl
  · simp only [free_setFree]
    split
    · rename_i h
      simp [h.1, h.2]
    · split
      · rename_i h
        simp [h.1, h.2]
      · rfl

/-- **The rule of a transfer.** -/
@[simp] theorem wp_makeTransfer {Q : Unit → Store AccountId → Prop}
    {E : DispatchError → Store AccountId → Prop} {P : Prop} :
    wp (makeTransfer assetId fromAccount toAccount amount : Prog β AccountId Unit) Q E P s ↔
      (amount ≤ s.free assetId fromAccount →
        (¬(β.sums = true → fromAccount ≠ toAccount →
            (s.free assetId toAccount).toNat + amount.toNat < 2 ^ 128) → P) ∧
          ((β.sums = true → fromAccount ≠ toAccount →
              (s.free assetId toAccount).toNat + amount.toNat < 2 ^ 128) →
            Q () (s.moved assetId fromAccount toAccount amount))) ∧
      (¬amount ≤ s.free assetId fromAccount → E (error .insufficientBalance) s) := by
  simp only [makeTransfer, wp_bind, wp_gets, wp_ensure, wp_ite, wp_sub, wp_add, wp_modify, wp_pure]
  refine and_congr (imp_congr_right fun hle => ?_) Iff.rfl
  have hnat : amount.toNat ≤ (s.free assetId fromAccount).toNat := BitVec.le_def.mp hle
  by_cases h : fromAccount = toAccount
  · subst h
    simp [Store.moved_self]
  · have hto : toAccount ≠ fromAccount := Ne.symm h
    simp [Store.moved, h, hto, hnat]

/-! ### Minting -/

section Minting

variable (s : Store AccountId) (assetId : AssetId) (who toAccount : AccountId) (amount : Balance)

/-- **The ledger after a mint.** -/
def Store.minted : Store AccountId :=
  Store.setFree
    { s with
      totalIssuance := s.totalIssuance.insert assetId (s.totalIssuance.get assetId + amount) }
    assetId toAccount (s.free assetId toAccount + amount)

/-- What a mint asks for: a permission, and room in the issuance and in the balance. -/
structure Store.CanMint : Prop where
  permission : s.checkPermission assetId who .mint = true
  total : (s.totalIssuance.get assetId).toNat + amount.toNat < 2 ^ 128
  balance : (s.free assetId toAccount).toNat + amount.toNat < 2 ^ 128

/-- **A mint** goes through if it may, and changes nothing if it may not. -/
theorem mintFree_cases :
    (s.CanMint assetId who toAccount amount ∧
      (mintFree assetId who toAccount amount : Prog β AccountId Unit) s =
        .ok () (s.minted assetId toAccount amount)) ∨
      ¬s.CanMint assetId who toAccount amount ∧
        ∃ e, (mintFree assetId who toAccount amount : Prog β AccountId Unit) s = .err e s := by
  have hspec : wp (mintFree assetId who toAccount amount : Prog β AccountId Unit)
      (fun _ t => s.CanMint assetId who toAccount amount ∧ t = s.minted assetId toAccount amount)
      (fun _ t => ¬s.CanMint assetId who toAccount amount ∧ t = s) False s := by
    simp only [mintFree, wp_bind, wp_gets, wp_ensure, wp_okOr_checkedAdd, wp_modify]
    refine ⟨fun hperm => ⟨fun hno => ⟨fun h => hno h.total, trivial⟩, fun htotal =>
      ⟨fun hno => ⟨fun h => hno h.balance, trivial⟩, fun hbal => ⟨⟨hperm, htotal, hbal⟩, rfl⟩⟩⟩,
      fun hno => ⟨fun h => hno h.permission, trivial⟩⟩
  rcases cases_of_wp hspec with ⟨_, _, hx, hcan, rfl⟩ | ⟨e, _, hx, hno, rfl⟩ | ⟨-, hno⟩
  · exact Or.inl ⟨hcan, hx⟩
  · exact Or.inr ⟨hno, e, hx⟩
  · exact hno.elim

end Minting

/-! ### Reserving -/

section Reserves

variable (twox64 : List UInt8 → LockIdentifier) (s : Store AccountId) (assetId : AssetId)
  (who : AccountId) (amount : Balance) (lockId : BitVec 128)

/-- The locks of an account on an asset. -/
def Store.locksOf : List BalanceLock :=
  s.locks.get (genericAssetLockIdentifier twox64 assetId, who)

/-- The lock a reserve records. -/
def Store.newLock : BalanceLock := { id := s.nextLockId, assetId := assetId, amount := amount }

/-- **The ledger after a reserve.** -/
def Store.locked : Store AccountId :=
  { (s.setReserved assetId who (s.reserved assetId who + amount)).setFree assetId who
      (s.free assetId who - amount) with
    nextLockId := s.nextLockId + 1
    locks := s.locks.insert (genericAssetLockIdentifier twox64 assetId, who)
      (s.locksOf twox64 assetId who ++ [s.newLock assetId amount]) }

/-- **The ledger after the release of a lock.** -/
def Store.unlocked : Store AccountId :=
  { (s.setFree assetId who (s.free assetId who + amount)).setReserved assetId who
      (s.reserved assetId who - amount) with
    locks := s.locks.insert (genericAssetLockIdentifier twox64 assetId, who)
      (dropFirstLock lockId (s.locksOf twox64 assetId who)) }

/-- **The lock an unreserve releases**: the given one if the account has it, or the first
of the right amount. -/
def Store.chosenLock : Option (BitVec 128) → Option (BitVec 128)
  | some lockId =>
    if s.lockIdExists (genericAssetLockIdentifier twox64 assetId) who lockId = true
    then some lockId else none
  | none => s.findLockIdByAmount (genericAssetLockIdentifier twox64 assetId) who amount

/-- Why there is no lock to release. -/
def missing : Option (BitVec 128) → Error
  | some _ => .missingLock
  | none => .noLockMeetRequirement

variable {twox64 s assetId who amount lockId}

/-- **The rule of a reserve.** -/
theorem wp_reserve {Q : BitVec 128 → Store AccountId → Prop}
    {E : DispatchError → Store AccountId → Prop} {P : Prop} :
    wp (reserve twox64 assetId who amount : Prog β AccountId (BitVec 128)) Q E P s ↔
      (amount ≤ s.free assetId who →
        (¬((β.sums = true → (s.reserved assetId who).toNat + amount.toNat < 2 ^ 128) ∧
            (β.sums = true → s.nextLockId.toNat + (1 : BitVec 128).toNat < 2 ^ 128)) → P) ∧
          ((β.sums = true → (s.reserved assetId who).toNat + amount.toNat < 2 ^ 128) ∧
              (β.sums = true → s.nextLockId.toNat + (1 : BitVec 128).toNat < 2 ^ 128) →
            Q s.nextLockId (s.locked twox64 assetId who amount))) ∧
      (¬amount ≤ s.free assetId who → E (error .insufficientBalance) s) := by
  simp only [reserve, setLock, takeLockId, wp_bind, wp_gets, wp_ensure, wp_add, wp_sub, wp_modify,
    wp_pure]
  refine and_congr (imp_congr_right fun hle => ?_) Iff.rfl
  have hnat : amount.toNat ≤ (s.free assetId who).toNat := BitVec.le_def.mp hle
  simp only [hnat, imp_true_iff, not_true_eq_false, false_imp_iff, true_imp_iff, true_and,
    guard_and]
  rfl

omit [DecidableEq AccountId] in
/-- A lock that is chosen is there. -/
theorem exists_of_chosenLock [DecidableEq AccountId] {choice : Option (BitVec 128)}
    (h : s.chosenLock twox64 assetId who amount choice = some lockId) :
    ∃ lock ∈ s.locksOf twox64 assetId who, lock.id = lockId := by
  cases choice with
  | some id =>
    rw [Store.chosenLock] at h
    split at h
    · rename_i hany
      cases h
      rw [Store.lockIdExists, List.any_eq_true] at hany
      obtain ⟨lock, hmem, hid⟩ := hany
      exact ⟨lock, hmem, of_decide_eq_true hid⟩
    · cases h
  | none =>
    rw [Store.chosenLock, Store.findLockIdByAmount, Option.map_eq_some_iff] at h
    obtain ⟨lock, hfind, hid⟩ := h
    exact ⟨lock, List.mem_of_find?_eq_some hfind, hid⟩

omit [DecidableEq AccountId] in
/-- A lock that is chosen is the given one. -/
theorem eq_of_chosenLock [DecidableEq AccountId] {id : BitVec 128}
    (h : s.chosenLock twox64 assetId who amount (some id) = some lockId) : id = lockId := by
  rw [Store.chosenLock] at h
  split at h
  · exact Option.some.inj h
  · cases h

/-- **The first lock of an id** is taken out of a list and the others stay in order. -/
theorem dropFirstLock_split {locks : List BalanceLock} (h : ∃ lock ∈ locks, lock.id = lockId) :
    ∃ before lock after, locks = before ++ lock :: after ∧ lock.id = lockId ∧
      (∀ l ∈ before, l.id ≠ lockId) ∧ dropFirstLock lockId locks = before ++ after := by
  induction locks with
  | nil =>
    obtain ⟨lock, hmem, -⟩ := h
    cases hmem
  | cons l locks ih =>
    rw [dropFirstLock]
    rcases eq_or_ne l.id lockId with hid | hid
    · exact ⟨[], l, locks, rfl, hid, by simp, if_pos hid⟩
    · obtain ⟨lock, hmem, hlock⟩ := h
      have hrest : lock ∈ locks := by
        rcases List.mem_cons.mp hmem with rfl | hmem
        · exact absurd hlock hid
        · exact hmem
      obtain ⟨before, first, after, rfl, hfirst, hbefore, hdrop⟩ := ih ⟨lock, hrest, hlock⟩
      refine ⟨l :: before, first, after, rfl, hfirst, ?_, ?_⟩
      · exact List.forall_mem_cons.mpr ⟨hid, hbefore⟩
      · rw [if_neg hid, hdrop, List.cons_append]

omit [DecidableEq AccountId] in
/-- The rule of the choice of a lock. -/
theorem wp_validLockId [DecidableEq AccountId] {choice : Option (BitVec 128)}
    {Q : BitVec 128 → Store AccountId → Prop} {E : DispatchError → Store AccountId → Prop}
    {P : Prop} :
    wp (validLockId (genericAssetLockIdentifier twox64 assetId) who amount choice :
        Prog β AccountId (BitVec 128)) Q E P s ↔
      (∀ lockId, s.chosenLock twox64 assetId who amount choice = some lockId → Q lockId s) ∧
      (s.chosenLock twox64 assetId who amount choice = none → E (error (missing choice)) s) := by
  cases choice with
  | some id =>
    simp only [validLockId, wp_bind, wp_gets, wp_ensure, wp_pure, Store.chosenLock, missing]
    split
    · rename_i hany
      simp [hany]
    · rename_i hany
      simp [hany]
  | none => simp only [validLockId, wp_bind, wp_gets, wp_okOr, Store.chosenLock, missing]

/-- The rule of deleting a lock that is there. -/
theorem wp_removeLock {identifier : LockIdentifier} {Q : Unit → Store AccountId → Prop}
    {E : DispatchError → Store AccountId → Prop} {P : Prop}
    (h : ∃ lock ∈ s.locks.get (identifier, who), lock.id = lockId) :
    wp (removeLock identifier who lockId : Prog β AccountId Unit) Q E P s ↔
      Q () { s with
        locks := s.locks.insert (identifier, who)
          (dropFirstLock lockId (s.locks.get (identifier, who))) } := by
  obtain ⟨before, lock, after, hlocks, -, -, hdrop⟩ := dropFirstLock_split h
  have hone : (s.locks.get (identifier, who)).length -
      (dropFirstLock lockId (s.locks.get (identifier, who))).length = 1 := by
    rw [hdrop, hlocks]
    simp only [List.length_append, List.length_cons]
    omega
  simp only [removeLock, wp_bind, wp_gets, wp_ite, hone, wp_modify, true_imp_iff,
    not_true_eq_false, false_imp_iff, and_true]

/-- **The rule of an unreserve.** -/
theorem wp_unreserve {choice : Option (BitVec 128)} {Q : Unit → Store AccountId → Prop}
    {E : DispatchError → Store AccountId → Prop} {P : Prop} :
    wp (unreserve twox64 assetId who amount choice : Prog β AccountId Unit) Q E P s ↔
      (amount ≤ s.reserved assetId who →
        (∀ lockId, s.chosenLock twox64 assetId who amount choice = some lockId →
          (¬(β.sums = true → (s.free assetId who).toNat + amount.toNat < 2 ^ 128) → P) ∧
            ((β.sums = true → (s.free assetId who).toNat + amount.toNat < 2 ^ 128) →
              Q () (s.unlocked twox64 assetId who amount lockId))) ∧
        (s.chosenLock twox64 assetId who amount choice = none → E (error (missing choice)) s)) ∧
      (¬amount ≤ s.reserved assetId who → E (error .insufficientReservedBalance) s) := by
  simp only [unreserve, wp_bind, wp_gets, wp_ensure, wp_validLockId]
  refine and_congr (imp_congr_right fun hle => and_congr ?_ Iff.rfl) Iff.rfl
  refine forall_congr' fun lockId => imp_congr_right fun hchosen => ?_
  have hnat : amount.toNat ≤ (s.reserved assetId who).toNat := BitVec.le_def.mp hle
  rw [wp_removeLock (exists_of_chosenLock hchosen)]
  simp only [wp_add, wp_sub, wp_modify, hnat, imp_true_iff, not_true_eq_false, false_imp_iff,
    true_imp_iff, true_and]
  rfl

end Reserves

end GenericAsset

namespace RuntimeState

/-- **The rule of a transfer**, in the runtime. -/
@[simp] theorem wp_makeTransferWithEvent {s : RuntimeState AccountId} {assetId : AssetId}
    {fromAccount toAccount : AccountId} {amount : Balance}
    {Q : Unit → RuntimeState AccountId → Prop}
    {E : DispatchError → RuntimeState AccountId → Prop} {P : Prop} :
    wp (makeTransferWithEvent assetId fromAccount toAccount amount : Prog β AccountId Unit)
        Q E P s ↔
      (amount ≤ s.assets.free assetId fromAccount →
        (¬(β.sums = true → fromAccount ≠ toAccount →
            (s.assets.free assetId toAccount).toNat + amount.toNat < 2 ^ 128) → P) ∧
          ((β.sums = true → fromAccount ≠ toAccount →
              (s.assets.free assetId toAccount).toNat + amount.toNat < 2 ^ 128) →
            Q () { s with assets := s.assets.moved assetId fromAccount toAccount amount })) ∧
      (¬amount ≤ s.assets.free assetId fromAccount →
        E (GenericAsset.error .insufficientBalance) s) := by
  rw [makeTransferWithEvent, wp_zoom, GenericAsset.makeTransferWithEvent,
    GenericAsset.wp_makeTransfer]

end RuntimeState

end MoneyPool
