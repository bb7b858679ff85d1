import MoneyPool.GenericAsset.LockIds

/-!
# A reserve undone

What a reserve moves and records, an unreserve moves back and deletes. It finds the lock by its id
or by its amount, takes the first one of the list and trusts that it is the right one. It is, as
long as no older lock has the id that the counter gives out, and there is room in the reserved
balance (`MoneyPool.GenericAsset.Store.CanUndo`). Neither is checked: the counter and the reserved
balance are added to as they are. From a genesis whose endowments fit, they hold for as many locks
as there are ids (`MoneyPool.GenericAsset.reserve_undone`).
-/

namespace MoneyPool

namespace GenericAsset

open Pallet Pallet.Exec

variable {AccountId : Type} [DecidableEq AccountId] {β : Build}
  {twox64 : List UInt8 → LockIdentifier}

/-! ### The first lock of a list -/

section Lists

variable {locks : List BalanceLock} {new l lock : BalanceLock} {amount : Balance}

/-- Behind its head a list has the same as with an element at its end only if all are that
element. -/
theorem append_singleton_eq_cons_iff :
    locks ++ [new] = l :: locks ↔ ∀ lock ∈ l :: locks, lock = new := by
  induction locks generalizing l with
  | nil => simp [eq_comm]
  | cons m locks ih =>
    rw [List.cons_append, List.cons.injEq, ih, List.forall_mem_cons (a := l)]
    constructor
    · rintro ⟨rfl, h⟩
      exact ⟨h m (List.mem_cons_self ..), h⟩
    · rintro ⟨rfl, h⟩
      exact ⟨h m (List.mem_cons_self ..), h⟩

/-- **A new lock is deleted again** by its id exactly if all locks of the list, from the first one
of that id on, are the new lock. -/
theorem dropFirstLock_append_eq_iff :
    dropFirstLock new.id (locks ++ [new]) = locks ↔
      ∀ lock ∈ locks.dropWhile (fun l => l.id ≠ new.id), lock = new := by
  induction locks with
  | nil => simp [dropFirstLock]
  | cons l locks ih =>
    rw [List.cons_append, dropFirstLock, List.dropWhile_cons]
    by_cases hid : l.id = new.id
    · rw [if_pos hid, if_neg (by simpa using hid)]
      exact append_singleton_eq_cons_iff
    · rw [if_neg hid, if_pos (by simpa using hid), List.cons.injEq, ih]
      exact and_iff_right rfl

/-- A list that has some element of an amount is not itself behind an element of another one. -/
theorem ne_cons_eraseP (hl : l.amount ≠ amount) (h : ∃ lock ∈ locks, lock.amount = amount) :
    locks ≠ l :: locks.eraseP fun l => l.amount = amount := by
  induction locks with
  | nil =>
    obtain ⟨_, hmem, -⟩ := h
    cases hmem
  | cons m locks ih =>
    intro heq
    obtain ⟨rfl, htail⟩ := List.cons.inj heq
    obtain ⟨lock, hmem, hamount⟩ := h
    have hmem' : lock ∈ locks := by
      rcases List.mem_cons.mp hmem with rfl | hmem
      · exact absurd hamount hl
      · exact hmem
    rw [List.eraseP_cons_of_neg (by simpa using hl)] at htail
    exact ih ⟨lock, hmem', hamount⟩ htail

/-- **The earliest lock of an amount** is deleted by its id exactly if the first lock of that id has
the amount, and so is that lock. -/
theorem dropFirstLock_eq_eraseP_iff (h : locks.find? (fun l => l.amount = amount) = some lock) :
    dropFirstLock lock.id locks = locks.eraseP (fun l => l.amount = amount) ↔
      ∀ first, locks.find? (fun l => l.id = lock.id) = some first → first.amount = amount := by
  induction locks with
  | nil => cases h
  | cons l locks ih =>
    rw [dropFirstLock]
    by_cases hl : l.amount = amount
    · rw [List.find?_cons_of_pos (by simpa using hl)] at h
      cases h
      rw [if_pos rfl, List.eraseP_cons_of_pos (by simpa using hl),
        List.find?_cons_of_pos (by simp)]
      exact iff_of_true rfl fun first hfirst => Option.some.inj hfirst ▸ hl
    · rw [List.find?_cons_of_neg (by simpa using hl)] at h
      rw [List.eraseP_cons_of_neg (by simpa using hl)]
      by_cases hid : l.id = lock.id
      · rw [if_pos hid, List.find?_cons_of_pos (by simpa using hid)]
        have hmem : ∃ lock ∈ locks, lock.amount = amount :=
          ⟨lock, List.mem_of_find?_eq_some h, by simpa using List.find?_some h⟩
        exact iff_of_false (ne_cons_eraseP hl hmem) fun hfirst => hl (hfirst l rfl)
      · rw [if_neg hid, List.find?_cons_of_neg (by simpa using hid), List.cons.injEq, ih h]
        exact and_iff_right rfl

end Lists

/-! ### What is undone -/

section Undone

variable (β) (twox64) (s : Store AccountId) (assetId : AssetId) (who : AccountId) (amount : Balance)

/-- **The balances have returned** to what they were, with everything else but the locks, and the
counter of the locks has gone on. -/
structure Store.Returned (u : Store AccountId) : Prop where
  free : ∀ assetId who, u.free assetId who = s.free assetId who
  reserved : ∀ assetId who, u.reserved assetId who = s.reserved assetId who
  totalIssuance : u.totalIssuance = s.totalIssuance
  symbols : u.symbols = s.symbols
  nextAssetId : u.nextAssetId = s.nextAssetId
  permissions : u.permissions = s.permissions
  nextLockId : u.nextLockId = s.nextLockId + 1

/-- **A reserve is undone** by an unreserve that names its lock, and by one that does not: that one
takes the earliest lock of the amount. -/
structure Store.Undone (lockId : BitVec 128) (t : Store AccountId) : Prop where
  byId : ∃ u, (unreserve twox64 assetId who amount (some lockId) : Prog β AccountId Unit) t =
      .ok () u ∧ s.Returned u ∧ ∀ key, u.locks.get key = s.locks.get key
  byAmount : ∃ u, (unreserve twox64 assetId who amount none : Prog β AccountId Unit) t = .ok () u ∧
    s.Returned u ∧ u.locksOf twox64 assetId who =
      (t.locksOf twox64 assetId who).eraseP (fun l => l.amount = amount) ∧
    ∀ key, key ≠ (genericAssetLockIdentifier twox64 assetId, who) →
      u.locks.get key = s.locks.get key

/-- **What a reserve relies on** so that it can be undone: there is room in the reserved balance,
no lock of the list has the id of the counter, unless it is the same lock, and the first lock of the
id of the earliest lock of the amount is that lock. -/
structure Store.CanUndo : Prop where
  room : (s.reserved assetId who).toNat + amount.toNat < 2 ^ 128
  fresh : ∀ lock ∈ (s.locksOf twox64 assetId who).dropWhile (fun l => l.id ≠ s.nextLockId),
    lock = s.newLock assetId amount
  earliest : ∀ lock, (s.locksOf twox64 assetId who ++ [s.newLock assetId amount]).find?
      (fun l => l.amount = amount) = some lock →
    ∀ first, (s.locksOf twox64 assetId who ++ [s.newLock assetId amount]).find?
      (fun l => l.id = lock.id) = some first → first.amount = amount

variable {β twox64 s assetId who amount} {lockId : BitVec 128} {t u : Store AccountId}
  {choice : Option (BitVec 128)}

theorem locksOf_locked : (s.locked twox64 assetId who amount).locksOf twox64 assetId who =
    s.locksOf twox64 assetId who ++ [s.newLock assetId amount] := by
  rw [Store.locksOf, Store.locked, StorageMap.get_insert, if_pos rfl]

/-- Which locks are left when one is released after a reserve. -/
theorem locks_unlocked_locked (key : LockIdentifier × AccountId) :
    ((s.locked twox64 assetId who amount).unlocked twox64 assetId who amount lockId).locks.get key =
      if key = (genericAssetLockIdentifier twox64 assetId, who) then
        dropFirstLock lockId (s.locksOf twox64 assetId who ++ [s.newLock assetId amount])
      else s.locks.get key := by
  rw [Store.unlocked, StorageMap.get_insert, locksOf_locked]
  split
  · rfl
  · rename_i hkey
    rw [Store.locked, StorageMap.get_insert, if_neg hkey]

/-- The lock of a reserve is there, and an unreserve that names it chooses it. -/
theorem chosenLock_locked :
    (s.locked twox64 assetId who amount).chosenLock twox64 assetId who amount (some s.nextLockId) =
      some s.nextLockId := by
  have hthere : ((s.locked twox64 assetId who amount).lockIdExists
      (genericAssetLockIdentifier twox64 assetId) who s.nextLockId) = true := by
    change ((s.locked twox64 assetId who amount).locksOf twox64 assetId who).any _ = true
    rw [locksOf_locked, List.any_append]
    simp [Store.newLock]
  rw [Store.chosenLock, if_pos hthere]

variable (twox64 s assetId who amount) in
/-- An unreserve that names no lock chooses the earliest of the amount, and there is one. -/
theorem chosenLock_locked_none :
    ∃ lock, (s.locksOf twox64 assetId who ++ [s.newLock assetId amount]).find?
        (fun l => l.amount = amount) = some lock ∧
      (s.locked twox64 assetId who amount).chosenLock twox64 assetId who amount none =
        some lock.id := by
  have hsome : ((s.locksOf twox64 assetId who ++ [s.newLock assetId amount]).find?
      fun l => l.amount = amount).isSome = true := by
    rw [List.find?_isSome]
    exact ⟨_, List.mem_append_right _ (List.mem_singleton_self _), decide_eq_true rfl⟩
  obtain ⟨lock, hfind⟩ := Option.isSome_iff_exists.mp hsome
  refine ⟨lock, hfind, ?_⟩
  change (((s.locked twox64 assetId who amount).locksOf twox64 assetId who).find? _).map _ = _
  rw [locksOf_locked, hfind]
  rfl

theorem free_locked (asset' : AssetId) (who' : AccountId) :
    (s.locked twox64 assetId who amount).free asset' who' =
      if asset' = assetId ∧ who' = who then s.free assetId who - amount
      else s.free asset' who' := by
  simp only [Store.free, Store.locked, Store.setFree, Store.setReserved, StorageMap.get_insert,
    Prod.mk.injEq]

theorem reserved_locked (asset' : AssetId) (who' : AccountId) :
    (s.locked twox64 assetId who amount).reserved asset' who' =
      if asset' = assetId ∧ who' = who then s.reserved assetId who + amount
      else s.reserved asset' who' := by
  simp only [Store.reserved, Store.locked, Store.setFree, Store.setReserved, StorageMap.get_insert,
    Prod.mk.injEq]

theorem free_unlocked (asset' : AssetId) (who' : AccountId) :
    (s.unlocked twox64 assetId who amount lockId).free asset' who' =
      if asset' = assetId ∧ who' = who then s.free assetId who + amount
      else s.free asset' who' := by
  simp only [Store.free, Store.unlocked, Store.setFree, Store.setReserved, StorageMap.get_insert,
    Prod.mk.injEq]

theorem reserved_unlocked (asset' : AssetId) (who' : AccountId) :
    (s.unlocked twox64 assetId who amount lockId).reserved asset' who' =
      if asset' = assetId ∧ who' = who then s.reserved assetId who - amount
      else s.reserved asset' who' := by
  simp only [Store.reserved, Store.unlocked, Store.setFree, Store.setReserved,
    StorageMap.get_insert, Prod.mk.injEq]

/-- The balances return, whatever lock is released. -/
theorem returned_unlocked_locked :
    s.Returned
      ((s.locked twox64 assetId who amount).unlocked twox64 assetId who amount lockId) where
  free asset' who' := by
    rw [free_unlocked]
    split
    · rename_i h
      rw [h.1, h.2, free_locked, if_pos ⟨rfl, rfl⟩, BitVec.sub_add_cancel]
    · rename_i h
      rw [free_locked, if_neg h]
  reserved asset' who' := by
    rw [reserved_unlocked]
    split
    · rename_i h
      rw [h.1, h.2, reserved_locked, if_pos ⟨rfl, rfl⟩, BitVec.add_sub_cancel]
    · rename_i h
      rw [reserved_locked, if_neg h]
  totalIssuance := rfl
  symbols := rfl
  nextAssetId := rfl
  permissions := rfl
  nextLockId := rfl

/-- **An unreserve right after a reserve** succeeds if there is room and its lock is there. -/
theorem unreserve_locked (hle : amount ≤ s.free assetId who)
    (hroom : (s.reserved assetId who).toNat + amount.toNat < 2 ^ 128)
    (hchosen : (s.locked twox64 assetId who amount).chosenLock twox64 assetId who amount choice =
      some lockId) :
    (unreserve twox64 assetId who amount choice : Prog β AccountId Unit)
        (s.locked twox64 assetId who amount) =
      .ok () ((s.locked twox64 assetId who amount).unlocked twox64 assetId who amount lockId) := by
  have hcov : amount ≤ (s.locked twox64 assetId who amount).reserved assetId who := by
    rw [reserved_locked, if_pos ⟨rfl, rfl⟩]
    exact le_add_iff_fits.mpr hroom
  have hfits : ((s.locked twox64 assetId who amount).free assetId who).toNat + amount.toNat <
      2 ^ 128 := by
    have hfree := (s.free assetId who).isLt
    rw [free_locked, if_pos ⟨rfl, rfl⟩, BitVec.toNat_sub_of_le hle,
      Nat.sub_add_cancel (BitVec.le_def.mp hle)]
    exact hfree
  refine eq_ok_of_wp (wp_unreserve.mpr ⟨fun _ => ⟨fun id hid => ?_, fun hnone => ?_⟩,
    fun hno => hno hcov⟩)
  · obtain rfl := Option.some.inj (hchosen.symm.trans hid)
    exact ⟨fun hno => hno fun _ => hfits, fun _ => rfl⟩
  · rw [hchosen] at hnone
    cases hnone

/-- What an unreserve right after a reserve has done, and that there was room. -/
theorem room_of_unreserve_locked
    (h : (unreserve twox64 assetId who amount choice : Prog β AccountId Unit)
      (s.locked twox64 assetId who amount) = .ok () u) :
    (s.reserved assetId who).toNat + amount.toNat < 2 ^ 128 ∧
      ∃ lockId, (s.locked twox64 assetId who amount).chosenLock twox64 assetId who amount choice =
          some lockId ∧
        u = (s.locked twox64 assetId who amount).unlocked twox64 assetId who amount lockId := by
  rcases unreserve_cases (β := β) twox64 (s.locked twox64 assetId who amount) assetId who amount
    choice with ⟨lockId, hx, hcov, hchosen⟩ | ⟨e, hx⟩ | hx
  · rw [hx] at h
    cases h
    rw [reserved_locked, if_pos ⟨rfl, rfl⟩] at hcov
    exact ⟨le_add_iff_fits.mp hcov, lockId, hchosen, rfl⟩
  · rw [hx] at h
    cases h
  · rw [hx] at h
    cases h

/-- **When a reserve can be undone**, in any state. -/
theorem undone_iff (hok : (reserve twox64 assetId who amount : Prog β AccountId (BitVec 128)) s =
    .ok lockId t) :
    s.Undone β twox64 assetId who amount lockId t ↔ s.CanUndo twox64 assetId who amount := by
  obtain ⟨rfl, rfl, hle⟩ : lockId = s.nextLockId ∧ t = s.locked twox64 assetId who amount ∧
      amount ≤ s.free assetId who := by
    rcases reserve_cases (β := β) twox64 s assetId who amount with ⟨hx, hle⟩ | ⟨e, hx⟩ | hx
    · rw [hx] at hok
      cases hok
      exact ⟨rfl, rfl, hle⟩
    · rw [hx] at hok
      cases hok
    · rw [hx] at hok
      cases hok
  obtain ⟨lock, hfind, hchosen⟩ := chosenLock_locked_none twox64 s assetId who amount
  have hnew := @dropFirstLock_append_eq_iff (s.locksOf twox64 assetId who)
    (s.newLock assetId amount)
  constructor
  · rintro ⟨⟨u, hu, -, hlocks⟩, v, hv, -, hearliest, -⟩
    obtain ⟨hroom, id, hid, rfl⟩ := room_of_unreserve_locked hu
    obtain ⟨-, id', hid', rfl⟩ := room_of_unreserve_locked hv
    obtain rfl := eq_of_chosenLock hid
    obtain rfl := Option.some.inj (hchosen.symm.trans hid')
    refine ⟨hroom, ?_, fun lock' hlock' first hfirst => ?_⟩
    · have hkey := hlocks (genericAssetLockIdentifier twox64 assetId, who)
      rw [locks_unlocked_locked, if_pos rfl] at hkey
      exact hnew.mp hkey
    · obtain rfl := Option.some.inj (hfind.symm.trans hlock')
      rw [Store.locksOf, locks_unlocked_locked, if_pos rfl, locksOf_locked] at hearliest
      exact (dropFirstLock_eq_eraseP_iff hfind).mp hearliest first hfirst
  · rintro ⟨hroom, hfresh, hearliest⟩
    refine ⟨⟨_, unreserve_locked hle hroom chosenLock_locked, returned_unlocked_locked,
      fun key => ?_⟩, _, unreserve_locked hle hroom hchosen, returned_unlocked_locked, ?_,
      fun key hkey => ?_⟩
    · rw [locks_unlocked_locked]
      split
      · rename_i hkey
        rw [hkey]
        exact hnew.mpr hfresh
      · rfl
    · rw [Store.locksOf, locks_unlocked_locked, if_pos rfl, locksOf_locked]
      exact (dropFirstLock_eq_eraseP_iff hfind).mpr (hearliest lock hfind)
    · rw [locks_unlocked_locked, if_neg hkey]

end Undone

/-! ### Runs -/

section Runs

variable {s s₀ : Store AccountId} {events : List LockEvent} {assetId : AssetId} {who : AccountId}
  {amount : Balance}

/-- **Locks that are one of their kind** can be undone, where there is room. -/
theorem Store.OneShot.canUndo (h : s.OneShot events)
    (hroom : (s.reserved assetId who).toNat + amount.toNat < 2 ^ 128) :
    s.CanUndo twox64 assetId who amount := by
  have hfresh : s.lockCount s.nextLockId = 0 := by
    by_contra hne
    exact BitVec.lt_irrefl _ (h.below _ (Nat.pos_of_ne_zero hne))
  have hids : ((s.locksOf twox64 assetId who ++ [s.newLock assetId amount]).map
      BalanceLock.id).Nodup := by
    refine List.nodup_iff_count_le_one.mpr fun id => ?_
    have hle := idCount_locksOf_le twox64 s assetId who id
    change idCount id _ ≤ 1
    rw [idCount_append, idCount_cons]
    have hnil : idCount id [] = 0 := rfl
    split
    · rename_i heq
      obtain rfl : s.nextLockId = id := heq
      omega
    · have honce := h.once id
      omega
  refine ⟨hroom, fun lock hlock => ?_, fun lock hlock first hfirst => ?_⟩
  · have hnone : (s.locksOf twox64 assetId who).dropWhile (fun l => l.id ≠ s.nextLockId) = [] := by
      refine List.dropWhile_eq_nil_iff.mpr fun l hl => decide_eq_true fun hid => ?_
      have hpos : 0 < idCount s.nextLockId (s.locksOf twox64 assetId who) :=
        List.count_pos_iff.mpr (hid ▸ List.mem_map_of_mem (f := BalanceLock.id) hl)
      have hle := idCount_locksOf_le twox64 s assetId who s.nextLockId
      omega
    rw [hnone] at hlock
    cases hlock
  · have hid : first.id = lock.id := by simpa using List.find?_some hfirst
    obtain rfl : first = lock := List.inj_on_of_nodup_map hids (List.mem_of_find?_eq_some hfirst)
      (List.mem_of_find?_eq_some hlock) hid
    simpa using List.find?_some hlock

variable [Inhabited AccountId]

/-- **A reserve is undone.** In every state of every run a reserve that has succeeded is undone,
with its lock named or not, exactly if there is room in the reserved balance and no older lock is
taken for the right one. Both are so after every run from a genesis whose endowments fit that has
taken fewer than `2 ^ 128 - 1` locks. -/
theorem reserve_undone {config : GenesisConfig AccountId} {key : AccountId}
    {ops : List (Op AccountId)}
    (hgenesis : (config.build key : Prog β AccountId Unit) .empty = .ok () s₀)
    (hrun : run (nextLedger β twox64) ops s₀ = some s) :
    (∀ assetId who amount lockId t,
      (reserve twox64 assetId who amount : Prog β AccountId (BitVec 128)) s = .ok lockId t →
      (s.Undone β twox64 assetId who amount lockId t ↔ s.CanUndo twox64 assetId who amount)) ∧
    (config.endowedAccounts.Nodup → (∀ assetId ∈ config.assets, assetId < config.nextAssetId) →
      config.initialBalance.toNat * config.endowedAccounts.length < 2 ^ 128 →
      config.endowedAccounts.length < 2 ^ 32 →
      (takenIds (lockEvents β twox64 ops s₀)).length < 2 ^ 128 - 1 →
      ∀ assetId who amount lockId t,
        (reserve twox64 assetId who amount : Prog β AccountId (BitVec 128)) s = .ok lockId t →
        s.Undone β twox64 assetId who amount lockId t) := by
  refine ⟨fun _ _ _ _ _ hok => undone_iff hok, ?_⟩
  intro hnodup hids hfits hlength htaken assetId who amount lockId t hok
  have hbooks : s₀.Books config.surplus :=
    (wp_of_ok hgenesis).mp (config.build_spec hnodup hids hfits key)
  rw [funext (GenesisConfig.surplus_eq_zero_iff.mpr (Or.inl hlength))] at hbooks
  have hbal : s.Balanced := balanced_of_reachable hbooks (reachable_of_run hrun)
  have hle : amount ≤ s.free assetId who := by
    rcases reserve_cases (β := β) twox64 s assetId who amount with ⟨-, hle⟩ | ⟨e, hx⟩ | hx
    · exact hle
    · exact nomatch hok.symm.trans hx
    · exact nomatch hok.symm.trans hx
  exact (undone_iff hok).mpr ((oneShot_of_run hgenesis hrun htaken).canUndo
    (hbal.receiversFit.reserve assetId who amount hle))

end Runs

/-- A reserve with an older lock of the same amount is undone. -/
theorem reserve_undone_example : ∃ s t, run (nextLedger .release Twox.twox64) [.reserve 0 5 10]
      exampleState.assets = some s ∧
    (reserve Twox.twox64 0 5 10 : Prog .release ℕ (BitVec 128)) s = .ok 2 t ∧
    s.Undone .release Twox.twox64 0 5 10 2 t := by
  obtain ⟨s, hrun, hok⟩ := exists_of_any
    (p := fun s : Store ℕ =>
      ((reserve Twox.twox64 0 5 10 : Prog .release ℕ (BitVec 128)) s).okValue = some 2)
    (o := run (nextLedger .release Twox.twox64) [.reserve 0 5 10] exampleState.assets)
    (by decide +kernel)
  obtain ⟨t, hx⟩ := Outcome.exists_ok_of_okValue hok
  have hgenesis := MoneyPool.GenesisConfig.assets_of_build exampleConfig_build
  obtain ⟨-, hundone⟩ := reserve_undone hgenesis hrun
  exact ⟨s, t, hrun, hx, hundone (by decide +kernel) (by simp [exampleConfig])
    (by decide +kernel) (by decide +kernel) (by decide +kernel) 0 5 10 2 t hx⟩

/-! ### A reserved balance that comes round -/

/-- Two accounts with half of what a balance may be. -/
def overissuedConfig : GenesisConfig ℕ where
  assets := [0]
  initialBalance := 2 ^ 127
  endowedAccounts := [5, 6]
  symbols := []
  nextAssetId := 1

/-- One account reserves what both had, and cannot have the second half back. -/
theorem reserve_not_undone : ¬∀ s₀ s lockId t,
    (overissuedConfig.build 0 : Prog .release ℕ Unit) .empty = .ok () s₀ →
    Reachable (nextLedger .release Twox.twox64) s₀ s →
    (reserve Twox.twox64 0 5 (2 ^ 127) : Prog .release ℕ (BitVec 128)) s = .ok lockId t →
    s.Undone .release Twox.twox64 0 5 (2 ^ 127) lockId t := by
  intro h
  obtain ⟨s, hs, hroom⟩ := exists_of_any
    (p := fun s : Store ℕ => ((reserve Twox.twox64 0 5 (2 ^ 127) :
      Prog .release ℕ (BitVec 128)) s).okState.isSome = true ∧
      ¬(s.reserved 0 5).toNat + (2 ^ 127 : Balance).toNat < 2 ^ 128)
    (o := ((overissuedConfig.build 0 : Prog .release ℕ Unit) .empty).okState.bind
      (run (nextLedger .release Twox.twox64) [.reserve 0 5 (2 ^ 127),
        .extrinsic 0 (.signed 6) (.transfer 0 5 (2 ^ 127))])) (by decide +kernel)
  obtain ⟨s₀, hbuild, hrun⟩ := Option.bind_eq_some_iff.mp hs
  obtain ⟨t, ht⟩ := Option.isSome_iff_exists.mp hroom.1
  obtain ⟨lockId, hx⟩ := Outcome.exists_ok_of_okState ht
  have hundone := h s₀ s lockId t (Outcome.eq_ok_of_okState hbuild) (reachable_of_run hrun) hx
  exact hroom.2 ((undone_iff hx).mp hundone).room

end GenericAsset

end MoneyPool
