import MoneyPool.GenericAsset.Conservation
import MoneyPool.Pallet.Twox

/-!
# Locks

A reserve is written down twice, as a reserved balance and as a lock, and the two are
meant to agree (`MoneyPool.GenericAsset.locks_match`). They do until an unreserve names a
lock and an amount that is not the one of the lock.

The ids of the locks come from a counter, so that a lock can be released only once
(`MoneyPool.GenericAsset.locks_one_shot`). The counter starts at one and not at zero, and
therefore the last of the ids is never taken by a lock that is below the counter.
-/

namespace MoneyPool

namespace GenericAsset

open Pallet Pallet.Exec

variable {AccountId : Type} [DecidableEq AccountId] [Inhabited AccountId] {β : Build}

/-! ### What leaves the reserves alone -/

/-- The reserves and the locks are what they were. -/
structure Store.SameReserves (s t : Store AccountId) : Prop where
  reservedBalance : t.reservedBalance = s.reservedBalance
  nextLockId : t.nextLockId = s.nextLockId
  locks : t.locks = s.locks

section SameReserves

variable {s : Store AccountId}

omit [DecidableEq AccountId] [Inhabited AccountId] in
theorem Store.SameReserves.refl (s : Store AccountId) : s.SameReserves s := ⟨rfl, rfl, rfl⟩

/-- Creating an asset leaves the reserves alone. -/
theorem createAsset_reserves {t : Store AccountId} (h : s.SameReserves t)
    (assetId : Option AssetId) (fromAccount : Option AccountId)
    (options : AssetOptions AccountId) :
    wp (createAsset assetId fromAccount options : Prog β AccountId Unit)
      (fun _ t => s.SameReserves t) (fun _ t => s.SameReserves t) False t := by
  have hsame : ∀ m f p n, s.SameReserves
      { t with totalIssuance := m, freeBalance := f, permissions := p, nextAssetId := n } :=
    fun _ _ _ _ => ⟨h.reservedBalance, h.nextLockId, h.locks⟩
  cases assetId with
  | some id =>
    simp only [createAsset, takeAssetId, wp_bind, wp_gets, wp_ensure, wp_pure, wp_modify]
    exact ⟨fun _ => ⟨fun _ => hsame _ _ _ _, fun _ => h⟩, fun _ => h⟩
  | none =>
    simp only [createAsset, takeAssetId, wp_bind, wp_gets, wp_okOr_checkedAdd, wp_modify, wp_pure]
    exact ⟨fun _ => h, fun _ => hsame _ _ _ _⟩

/-- **The calls** leave the reserves alone. -/
theorem dispatch_reserves (key : AccountId) (origin : Origin AccountId) (call : Call AccountId) :
    wp (dispatch key origin call : Prog β AccountId Unit) (fun _ t => s.SameReserves t)
      (fun _ t => s.SameReserves t) True s := by
  have hsame : s.SameReserves s := .refl s
  cases call with
  | create initialIssuance symbol =>
    simp only [dispatch, create, wp_bind, wp_ensureRoot, wp_gets, wp_modify]
    refine ⟨fun _ => ?_, fun _ => hsame⟩
    refine wp_mono (createAsset_reserves hsame _ _ _) (fun _ t ht => ?_) (fun _ _ ht => ht)
      False.elim
    exact ⟨ht.reservedBalance, ht.nextLockId, ht.locks⟩
  | transfer assetId toAccount amount =>
    simp only [dispatch, transfer, makeTransferWithEvent, wp_bind, wp_ensureSigned, wp_ensure,
      wp_makeTransfer]
    refine ⟨fun who _ => ⟨fun _ => ⟨fun _ => ⟨fun _ => trivial, fun _ => ?_⟩, fun _ => hsame⟩,
      fun _ => hsame⟩, fun _ => hsame⟩
    unfold Store.moved
    split
    · exact hsame
    · exact ⟨rfl, rfl, rfl⟩
  | updatePermission assetId newPermission =>
    simp only [dispatch, updatePermission, wp_bind, wp_ensureSigned, wp_gets, wp_ensure, wp_modify]
    exact ⟨fun _ _ => ⟨fun _ => ⟨rfl, rfl, rfl⟩, fun _ => hsame⟩, fun _ => hsame⟩
  | mint assetId toAccount amount =>
    simp only [dispatch, mint, mintFree, wp_bind, wp_ensureSigned, wp_gets, wp_ensure,
      wp_okOr_checkedAdd, wp_modify]
    exact ⟨fun _ _ => ⟨fun _ => ⟨fun _ => hsame, fun _ => ⟨fun _ => hsame,
      fun _ => ⟨rfl, rfl, rfl⟩⟩⟩, fun _ => hsame⟩, fun _ => hsame⟩
  | burn assetId toAccount amount =>
    simp only [dispatch, burn, burnFree, wp_bind, wp_ensureSigned, wp_gets, wp_ensure,
      wp_okOr_checkedSub, wp_modify]
    exact ⟨fun _ _ => ⟨fun _ => ⟨fun _ => hsame, fun _ => ⟨fun _ => hsame,
      fun _ => ⟨rfl, rfl, rfl⟩⟩⟩, fun _ => hsame⟩, fun _ => hsame⟩
  | createReserved assetId options =>
    simp only [dispatch, createReserved, wp_bind, wp_ensureRoot]
    refine ⟨fun _ => ?_, fun _ => hsame⟩
    exact wp_mono (createAsset_reserves hsame _ _ _) (fun _ _ ht => ht) (fun _ _ ht => ht)
      False.elim

/-- **The genesis storage** has no reserves and no locks. -/
theorem GenesisConfig.build_reserves (config : GenesisConfig AccountId) (key : AccountId) :
    wp (config.build key : Prog β AccountId Unit) (fun _ t => Store.empty.SameReserves t)
      (fun _ _ => False) True .empty := by
  simp only [build, wp_bind, wp_mul, forEach_modify, wp_modify]
  refine ⟨fun _ => trivial, fun _ => ?_⟩
  refine wp_forEach (fun t => Store.empty.SameReserves t) (fun i _ t ht => ?_) ?_
  · rw [wp_expectOk]
    exact wp_mono (createAsset_reserves ht _ _ _) (fun _ _ h => h) (fun _ _ _ => trivial)
      False.elim
  · obtain ⟨m, hm⟩ := endowed_eq config.notedStore config.assets config.endowedAccounts
      config.initialBalance
    have hend : Store.empty.SameReserves config.endowedStore := by
      rw [endowedStore, hm]
      exact ⟨rfl, rfl, rfl⟩
    exact hend

end SameReserves

/-! ### What an operation does to the locks -/

/-- What happens to a lock. -/
inductive LockEvent where
  /-- A reserve has returned its id. -/
  | taken (lockId : BitVec 128)
  /-- An unreserve has released it. -/
  | released (lockId : BitVec 128)

section Events

variable (β) (twox64 : List UInt8 → LockIdentifier)

/-- What an operation does to a lock, if it succeeds. -/
def Op.lockEvent (op : Op AccountId) (s : Store AccountId) : Option LockEvent :=
  match op with
  | .reserve assetId who amount =>
    match (GenericAsset.reserve twox64 assetId who amount : Prog β AccountId (BitVec 128)) s with
    | .ok lockId _ => some (.taken lockId)
    | _ => none
  | .unreserve assetId who amount choice =>
    match (GenericAsset.unreserve twox64 assetId who amount choice : Prog β AccountId Unit) s with
    | .ok _ _ => (s.chosenLock twox64 assetId who amount choice).map .released
    | _ => none
  | .extrinsic _ _ _ => none

/-- **What an operation does to the reserves**: nothing, or it takes or releases a lock
after its checks have passed. -/
inductive LockEffect (s : Store AccountId) :
    Op AccountId → Option LockEvent → Store AccountId → Prop
  /-- The reserves are left alone. -/
  | same (op : Op AccountId) {s' : Store AccountId} (h : s.SameReserves s') :
      LockEffect s op none s'
  /-- A lock is taken. -/
  | taken (assetId : AssetId) (who : AccountId) (amount : Balance)
      (covered : amount ≤ s.free assetId who) :
      LockEffect s (.reserve assetId who amount) (some (.taken s.nextLockId))
        (s.locked twox64 assetId who amount)
  /-- A lock is released. -/
  | released (assetId : AssetId) (who : AccountId) (amount : Balance)
      (choice : Option (BitVec 128)) (lockId : BitVec 128)
      (covered : amount ≤ s.reserved assetId who)
      (chosen : s.chosenLock twox64 assetId who amount choice = some lockId) :
      LockEffect s (.unreserve assetId who amount choice) (some (.released lockId))
        (s.unlocked twox64 assetId who amount lockId)

variable {β twox64} {s s' : Store AccountId} {op : Op AccountId}

omit [Inhabited AccountId] in
theorem reserve_cases (twox64 : List UInt8 → LockIdentifier) (s : Store AccountId)
    (assetId : AssetId) (who : AccountId) (amount : Balance) :
    (reserve twox64 assetId who amount : Prog β AccountId (BitVec 128)) s =
        .ok s.nextLockId (s.locked twox64 assetId who amount) ∧ amount ≤ s.free assetId who ∨
      (∃ e, (reserve twox64 assetId who amount : Prog β AccountId (BitVec 128)) s = .err e s) ∨
      (reserve twox64 assetId who amount : Prog β AccountId (BitVec 128)) s = .panic := by
  have hspec : wp (reserve twox64 assetId who amount : Prog β AccountId (BitVec 128))
      (fun id t => id = s.nextLockId ∧ t = s.locked twox64 assetId who amount ∧
        amount ≤ s.free assetId who) (fun _ t => t = s) True s :=
    wp_reserve.mpr ⟨fun hle => ⟨fun _ => trivial, fun _ => ⟨rfl, rfl, hle⟩⟩, fun _ => rfl⟩
  rcases cases_of_wp hspec with ⟨_, _, hx, rfl, rfl, hle⟩ | ⟨e, _, hx, rfl⟩ | ⟨hx, -⟩
  · exact Or.inl ⟨hx, hle⟩
  · exact Or.inr (Or.inl ⟨e, hx⟩)
  · exact Or.inr (Or.inr hx)

omit [Inhabited AccountId] in
theorem unreserve_cases (twox64 : List UInt8 → LockIdentifier) (s : Store AccountId)
    (assetId : AssetId) (who : AccountId) (amount : Balance) (choice : Option (BitVec 128)) :
    (∃ lockId, (unreserve twox64 assetId who amount choice : Prog β AccountId Unit) s =
        .ok () (s.unlocked twox64 assetId who amount lockId) ∧ amount ≤ s.reserved assetId who ∧
        s.chosenLock twox64 assetId who amount choice = some lockId) ∨
      (∃ e, (unreserve twox64 assetId who amount choice : Prog β AccountId Unit) s = .err e s) ∨
      (unreserve twox64 assetId who amount choice : Prog β AccountId Unit) s = .panic := by
  have hspec : wp (unreserve twox64 assetId who amount choice : Prog β AccountId Unit)
      (fun _ t => ∃ lockId, t = s.unlocked twox64 assetId who amount lockId ∧
        amount ≤ s.reserved assetId who ∧
        s.chosenLock twox64 assetId who amount choice = some lockId)
      (fun _ t => t = s) True s := by
    refine wp_unreserve.mpr ⟨fun hle => ⟨fun lockId hchosen => ⟨fun _ => trivial, fun _ => ?_⟩,
      fun _ => rfl⟩, fun _ => rfl⟩
    exact ⟨lockId, rfl, hle, hchosen⟩
  rcases cases_of_wp hspec with ⟨_, _, hx, lockId, rfl, hle, hchosen⟩ | ⟨e, _, hx, rfl⟩ | ⟨hx, -⟩
  · exact Or.inl ⟨lockId, hx, hle, hchosen⟩
  · exact Or.inr (Or.inl ⟨e, hx⟩)
  · exact Or.inr (Or.inr hx)

/-- **The list of effects is complete.** -/
theorem nextLedger_lockEffect (h : nextLedger β twox64 op s = some s') :
    LockEffect twox64 s op (op.lockEvent β twox64 s) s' := by
  cases op with
  | extrinsic key origin call =>
    refine .same _ (nextLedger_of_wp ?_ (.refl s) h)
    exact dispatch_reserves key origin call
  | reserve assetId who amount =>
    rcases reserve_cases (β := β) twox64 s assetId who amount with ⟨hx, hle⟩ | ⟨e, hx⟩ | hx
    · simp only [nextLedger, Op.exec, bind, hx] at h
      cases h
      rw [Op.lockEvent, hx]
      exact .taken assetId who amount hle
    · simp only [nextLedger, Op.exec, bind, hx] at h
      cases h
      rw [Op.lockEvent, hx]
      exact .same _ (.refl s)
    · simp only [nextLedger, Op.exec, bind, hx] at h
      cases h
      rw [Op.lockEvent, hx]
      exact .same _ (.refl s)
  | unreserve assetId who amount choice =>
    rcases unreserve_cases (β := β) twox64 s assetId who amount choice with
      ⟨lockId, hx, hle, hchosen⟩ | ⟨e, hx⟩ | hx
    · rw [nextLedger, Op.exec, hx] at h
      cases h
      rw [Op.lockEvent, hx]
      simp only [hchosen]
      exact .released assetId who amount choice lockId hle hchosen
    · rw [nextLedger, Op.exec, hx] at h
      cases h
      rw [Op.lockEvent, hx]
      exact .same _ (.refl s)
    · rw [nextLedger, Op.exec, hx] at h
      cases h
      rw [Op.lockEvent, hx]
      exact .same _ (.refl s)

end Events

/-! ### The two records of a reserve -/

/-- What some locks hold. -/
def lockSum (locks : List BalanceLock) : ℕ := (locks.map fun lock => lock.amount.toNat).sum

theorem lockSum_append (locks locks' : List BalanceLock) :
    lockSum (locks ++ locks') = lockSum locks + lockSum locks' := by
  rw [lockSum, List.map_append, List.sum_append]
  rfl

theorem lockSum_cons (lock : BalanceLock) (locks : List BalanceLock) :
    lockSum (lock :: locks) = lock.amount.toNat + lockSum locks := by
  rw [lockSum, List.map_cons, List.sum_cons]
  rfl

section Match

variable (twox64 : List UInt8 → LockIdentifier)

/-- **The reserved balance is what the locks hold**, of every asset and account. -/
def Store.LocksMatch (s : Store AccountId) : Prop :=
  ∀ assetId who, (s.reserved assetId who).toNat = lockSum (s.locksOf twox64 assetId who)

/-- **When an operation keeps the two records together**: a reserve does not overflow, and
an unreserve asks for the amount of the lock it releases. -/
def Store.KeepsLocks (s : Store AccountId) : Op AccountId → Prop
  | .reserve assetId who amount => amount ≤ s.free assetId who →
    (s.reserved assetId who).toNat + amount.toNat < 2 ^ 128
  | .unreserve assetId who amount choice => amount ≤ s.reserved assetId who →
    ∀ lockId, s.chosenLock twox64 assetId who amount choice = some lockId →
      ∀ lock, (s.locksOf twox64 assetId who).find? (fun l => l.id = lockId) = some lock →
        lock.amount = amount
  | .extrinsic _ _ _ => True

variable {twox64} {s s' : Store AccountId} {op : Op AccountId} {ev : Option LockEvent}

omit [Inhabited AccountId] in
/-- The records are those of the reserves. -/
theorem Store.LocksMatch.of_same (h : s.LocksMatch twox64) (hsame : s.SameReserves s') :
    s'.LocksMatch twox64 := by
  intro assetId who
  rw [reserved, hsame.reservedBalance, locksOf, hsame.locks]
  exact h assetId who

omit [Inhabited AccountId] in
/-- The records may change together at one asset and account. -/
theorem Store.LocksMatch.write (hinj : Function.Injective (genericAssetLockIdentifier twox64))
    (h : s.LocksMatch twox64) {assetId : AssetId} {who : AccountId} {balance : Balance}
    {locks : List BalanceLock}
    (hreserved : s'.reservedBalance = s.reservedBalance.insert (assetId, who) balance)
    (hlocks : s'.locks =
      s.locks.insert (genericAssetLockIdentifier twox64 assetId, who) locks)
    (hsum : balance.toNat = lockSum locks) : s'.LocksMatch twox64 := by
  intro asset' who'
  rw [reserved, hreserved, StorageMap.get_insert, locksOf, hlocks, StorageMap.get_insert]
  by_cases hkey : (asset', who') = (assetId, who)
  · obtain ⟨rfl, rfl⟩ := Prod.mk.inj hkey
    rw [if_pos rfl, if_pos rfl, hsum]
  · have hne : (genericAssetLockIdentifier twox64 asset', who') ≠
        (genericAssetLockIdentifier twox64 assetId, who) := by
      intro heq
      obtain ⟨hid, hwho⟩ := Prod.mk.inj heq
      exact hkey (Prod.ext (hinj hid) hwho)
    rw [if_neg hkey, if_neg hne]
    exact h asset' who'

omit [Inhabited AccountId] in
/-- **The records stay together** in every operation that keeps them together. -/
theorem LockEffect.locksMatch (hinj : Function.Injective (genericAssetLockIdentifier twox64))
    (heff : LockEffect twox64 s op ev s') (h : s.LocksMatch twox64) (hop : s.KeepsLocks twox64 op) :
    s'.LocksMatch twox64 := by
  cases heff with
  | same _ hsame => exact h.of_same hsame
  | taken assetId who amount hcov =>
    refine h.write hinj rfl rfl ?_
    rw [BitVec.toNat_add_of_lt (hop hcov), lockSum_append, h assetId who, lockSum_cons]
    rfl
  | released assetId who amount choice lockId hcov hchosen =>
    obtain ⟨before, lock, after, hlocks, hid, hbefore, hdrop⟩ :=
      dropFirstLock_split (exists_of_chosenLock hchosen)
    refine h.write hinj rfl rfl ?_
    have hfirst : (s.locksOf twox64 assetId who).find? (fun l => l.id = lockId) = some lock := by
      rw [hlocks, List.find?_append, List.find?_eq_none.mpr (by simpa using hbefore)]
      simp [hid]
    have hamount : lock.amount = amount := hop hcov lockId hchosen lock hfirst
    have hsum := h assetId who
    rw [hlocks, lockSum_append, lockSum_cons, hamount] at hsum
    rw [BitVec.toNat_sub_of_le hcov, hdrop, lockSum_append]
    omega

/-- **The lock ledger.** In every state reached by operations that keep the two records
together, the reserved balance of every asset and account is the sum of its locks. -/
theorem locks_match {config : GenesisConfig AccountId} {key : AccountId} {s₀ : Store AccountId}
    (hinj : Function.Injective (genericAssetLockIdentifier twox64))
    (hgenesis : (config.build key : Prog β AccountId Unit) .empty = .ok () s₀)
    (hreach : Reach (nextLedger β twox64) (fun s op => s.KeepsLocks twox64 op) s₀ s)
    (assetId : AssetId) (who : AccountId) :
    (s.reserved assetId who).toNat = lockSum (s.locksOf twox64 assetId who) := by
  have hsame : Store.empty.SameReserves s₀ := (wp_of_ok hgenesis).mp (config.build_reserves key)
  have hempty : (Store.empty : Store AccountId).LocksMatch twox64 := fun _ _ => rfl
  have hmatch : s.LocksMatch twox64 :=
    hreach.invariant (I := fun s => s.LocksMatch twox64) (hempty.of_same hsame)
      fun _ _ _ hs hop hnext => (nextLedger_lockEffect hnext).locksMatch hinj hs hop
  exact hmatch assetId who

end Match

/-- The host's hash gives different assets different lock identifiers. -/
theorem twox64_injective :
    Function.Injective (genericAssetLockIdentifier Twox.twox64) := by
  have hword : ∀ assetId, genericAssetLockIdentifier Twox.twox64 assetId =
      Twox.hashWord assetId := fun assetId => congrArg Twox.hashWord (Twox.wordOf_bytes assetId)
  intro assetId asset' h
  rw [hword, hword] at h
  exact Twox.hashWord_injective h

/-- Two reserves, and the release of the first one with the amount of its lock. -/
theorem locks_match_example : ∃ s, run (nextLedger .release Twox.twox64)
      [.reserve 0 5 10, .reserve 0 5 20, .unreserve 0 5 10 (some 1)] exampleState.assets = some s ∧
    s.reserved 0 5 = 20 ∧ (s.reserved 0 5).toNat = lockSum (s.locksOf Twox.twox64 0 5) := by
  obtain ⟨s, hrun, hres⟩ := exists_of_any (p := fun s : Store ℕ => s.reserved 0 5 = 20)
    (o := run (nextLedger .release Twox.twox64)
      [.reserve 0 5 10, .reserve 0 5 20, .unreserve 0 5 10 (some 1)] exampleState.assets)
    (by decide +kernel)
  obtain ⟨s₁, h₁, hrest⟩ := Option.bind_eq_some_iff.mp hrun
  obtain ⟨s₂, h₂, hlast⟩ := Option.bind_eq_some_iff.mp hrest
  obtain ⟨_, h₃, ⟨⟩⟩ := Option.bind_eq_some_iff.mp hlast
  have hkeeps₀ : exampleState.assets.KeepsLocks Twox.twox64 (.reserve 0 5 10) :=
    fun _ => by decide +kernel
  have hkeeps₁ : s₁.KeepsLocks Twox.twox64 (.reserve 0 5 20) := by
    have hfits : ((nextLedger .release Twox.twox64 (.reserve 0 5 10) exampleState.assets).all
        fun s => decide ((s.reserved 0 5).toNat + (20 : Balance).toNat < 2 ^ 128)) = true := by
      decide +kernel
    rw [h₁] at hfits
    exact fun _ => of_decide_eq_true hfits
  have hkeeps₂ : s₂.KeepsLocks Twox.twox64 (.unreserve 0 5 10 (some 1)) := by
    have hfirst : ((run (nextLedger .release Twox.twox64) [.reserve 0 5 10, .reserve 0 5 20]
        exampleState.assets).all fun s => decide ((s.locksOf Twox.twox64 0 5).find?
          (fun l => l.id = 1) = some { id := 1, assetId := 0, amount := 10 })) = true := by
      decide +kernel
    rw [run, h₁, Option.bind_some, run, h₂, Option.bind_some] at hfirst
    intro _ lockId hchosen lock hlock
    rw [← eq_of_chosenLock hchosen, of_decide_eq_true hfirst] at hlock
    cases hlock
    rfl
  have hgenesis := MoneyPool.GenesisConfig.assets_of_build exampleConfig_build
  exact ⟨s, hrun, hres, locks_match twox64_injective hgenesis
    (((Reach.refl.tail hkeeps₀ h₁).tail hkeeps₁ h₂).tail hkeeps₂ h₃) 0 5⟩

/-- A lock of ten is released with an amount of three. -/
theorem locks_not_match : ¬∀ s, Reachable (nextLedger .release Twox.twox64) exampleState.assets s →
    ∀ assetId who,
      (s.reserved assetId who).toNat = lockSum (s.locksOf Twox.twox64 assetId who) := by
  intro h
  obtain ⟨s, hrun, hne⟩ := exists_of_any
    (p := fun s : Store ℕ => ¬(s.reserved 0 5).toNat = lockSum (s.locksOf Twox.twox64 0 5))
    (o := run (nextLedger .release Twox.twox64) [.reserve 0 5 10, .unreserve 0 5 3 (some 1)]
      exampleState.assets) (by decide +kernel)
  exact hne (h s (reachable_of_run hrun) 0 5)

end GenericAsset

end MoneyPool
