import MoneyPool.GenericAsset.Locks

/-!
# Locks are released once

The id of a lock comes from a counter and is written into one list. As long as the counter
has not come round, no id occurs twice among all locks, and every id that is there is below
the counter (`MoneyPool.GenericAsset.Store.OneShot`). So what has been released is gone for
good, and an unreserve that names it again is refused
(`MoneyPool.GenericAsset.locks_one_shot`).

The counter starts at one. After as many locks as there are ids but one, it stands at zero,
with locks above it.
-/

namespace MoneyPool

namespace GenericAsset

open Pallet Pallet.Exec

variable {AccountId : Type} [DecidableEq AccountId] {β : Build}
  {twox64 : List UInt8 → LockIdentifier}

/-! ### The ids of all locks -/

/-- The ids of all locks, of every asset and account. -/
def Store.lockIds (s : Store AccountId) : List (BitVec 128) :=
  s.locks.entries.flatMap fun e => e.2.map BalanceLock.id

/-- How often an id occurs in a list of locks. -/
def idCount (lockId : BitVec 128) (locks : List BalanceLock) : ℕ :=
  (locks.map BalanceLock.id).count lockId

/-- How often an id occurs among all locks. -/
def Store.lockCount (s : Store AccountId) (lockId : BitVec 128) : ℕ :=
  s.locks.total fun _ locks => idCount lockId locks

section Counts

variable {s : Store AccountId} {lockId id : BitVec 128} {assetId : AssetId} {who : AccountId}
  {amount : Balance}

omit [DecidableEq AccountId] in
theorem count_lockIds (s : Store AccountId) (lockId : BitVec 128) :
    s.lockIds.count lockId = s.lockCount lockId := by
  rw [Store.lockIds, List.count_flatMap]
  rfl

omit [DecidableEq AccountId] in
theorem mem_lockIds : lockId ∈ s.lockIds ↔ 0 < s.lockCount lockId := by
  rw [← count_lockIds, List.count_pos_iff]

theorem idCount_append (locks locks' : List BalanceLock) :
    idCount id (locks ++ locks') = idCount id locks + idCount id locks' := by
  rw [idCount, List.map_append, List.count_append]
  rfl

theorem idCount_cons (lock : BalanceLock) (locks : List BalanceLock) :
    idCount id (lock :: locks) = idCount id locks + if lock.id = id then 1 else 0 := by
  rw [idCount, List.map_cons, List.count_cons]
  simp only [beq_iff_eq]
  rfl

/-- The list of an asset and account counts among all locks. -/
theorem idCount_locksOf_le (twox64 : List UInt8 → LockIdentifier) (s : Store AccountId)
    (assetId : AssetId) (who : AccountId) (lockId : BitVec 128) :
    idCount lockId (s.locksOf twox64 assetId who) ≤ s.lockCount lockId := by
  have hle := StorageMap.weight_le_total (f := fun _ locks => idCount lockId locks) s.locks
    (genericAssetLockIdentifier twox64 assetId, who)
  rwa [StorageMap.weight_eq fun _ => rfl] at hle

/-- **A reserve** adds one id, the one of the counter. -/
theorem lockCount_locked (s : Store AccountId) (assetId : AssetId) (who : AccountId)
    (amount : Balance) (id : BitVec 128) :
    (s.locked twox64 assetId who amount).lockCount id =
      s.lockCount id + if s.nextLockId = id then 1 else 0 := by
  have htotal := StorageMap.total_insert (f := fun _ locks => idCount id locks) s.locks
    (genericAssetLockIdentifier twox64 assetId, who)
    (s.locksOf twox64 assetId who ++ [s.newLock assetId amount])
  rw [StorageMap.weight_eq fun _ => rfl, idCount_append, idCount_cons] at htotal
  have hold : idCount id (s.locks.get (genericAssetLockIdentifier twox64 assetId, who)) =
      idCount id (s.locksOf twox64 assetId who) := rfl
  have hnil : idCount id [] = 0 := rfl
  have hid : (s.newLock assetId amount).id = s.nextLockId := rfl
  rw [hold, hnil, hid] at htotal
  change (s.locks.insert _ _).total _ = s.locks.total _ + _
  omega

/-- **A release** takes one id away, the one of the lock. -/
theorem lockCount_unlocked {s : Store AccountId} (amount : Balance)
    (h : ∃ lock ∈ s.locksOf twox64 assetId who, lock.id = lockId) (id : BitVec 128) :
    (s.unlocked twox64 assetId who amount lockId).lockCount id + (if lockId = id then 1 else 0) =
      s.lockCount id := by
  obtain ⟨before, lock, after, hlocks, hlock, -, hdrop⟩ := dropFirstLock_split h
  have htotal := StorageMap.total_insert (f := fun _ locks => idCount id locks) s.locks
    (genericAssetLockIdentifier twox64 assetId, who)
    (dropFirstLock lockId (s.locksOf twox64 assetId who))
  have hold : idCount id (s.locks.get (genericAssetLockIdentifier twox64 assetId, who)) =
      idCount id (s.locksOf twox64 assetId who) := rfl
  rw [StorageMap.weight_eq fun _ => rfl, hold, hdrop, hlocks, idCount_append, idCount_append,
    idCount_cons, hlock] at htotal
  change (s.locks.insert _ _).total _ + _ = s.locks.total _
  rw [hdrop]
  omega

end Counts

/-! ### The history of the locks -/

/-- The ids that reserves have returned. -/
def takenIds (events : List LockEvent) : List (BitVec 128) :=
  events.filterMap fun
    | .taken lockId => some lockId
    | .released _ => none

/-- The ids that unreserves have released. -/
def releasedIds (events : List LockEvent) : List (BitVec 128) :=
  events.filterMap fun
    | .taken _ => none
    | .released lockId => some lockId

variable [Inhabited AccountId]

/-- What a run has done to the locks. -/
def lockEvents (β : Build) (twox64 : List UInt8 → LockIdentifier) (ops : List (Op AccountId))
    (s : Store AccountId) : List LockEvent :=
  collect (nextLedger β twox64) (Op.lockEvent β twox64) ops s

/-- **Every lock is one of its kind**, after the given history: no id occurs twice, what is
there is below the counter, and what has been released is not there. -/
structure Store.OneShot (s : Store AccountId) (events : List LockEvent) : Prop where
  next : s.nextLockId.toNat = 1 + (takenIds events).length
  once : ∀ lockId, s.lockCount lockId ≤ 1
  below : ∀ lockId, 0 < s.lockCount lockId → lockId < s.nextLockId
  gone : ∀ lockId ∈ releasedIds events, lockId < s.nextLockId ∧ s.lockCount lockId = 0
  released : (releasedIds events).Nodup

section OneShot

variable {s s' s₀ : Store AccountId} {events : List LockEvent} {op : Op AccountId}
  {ev : Option LockEvent}

theorem takenIds_append (events events' : List LockEvent) :
    takenIds (events ++ events') = takenIds events ++ takenIds events' :=
  List.filterMap_append

theorem releasedIds_append (events events' : List LockEvent) :
    releasedIds (events ++ events') = releasedIds events ++ releasedIds events' :=
  List.filterMap_append

omit [Inhabited AccountId] in
/-- **Every lock stays one of its kind** in an operation that does not take the last id. -/
theorem LockEffect.oneShot (heff : LockEffect twox64 s op ev s') (h : s.OneShot events)
    (hroom : (takenIds (events ++ ev.toList)).length < 2 ^ 128 - 1) :
    s'.OneShot (events ++ ev.toList) := by
  cases heff with
  | same _ hsame =>
    rw [Option.toList_none, List.append_nil]
    have hcount : ∀ lockId, s'.lockCount lockId = s.lockCount lockId := fun lockId => by
      rw [Store.lockCount, hsame.locks, Store.lockCount]
    refine ⟨?_, fun id => ?_, fun id => ?_, fun id hid => ?_, h.released⟩
    · rw [hsame.nextLockId, h.next]
    · rw [hcount]
      exact h.once id
    · rw [hcount, hsame.nextLockId]
      exact h.below id
    · rw [hcount, hsame.nextLockId]
      exact h.gone id hid
  | taken assetId who amount hcov =>
    have hlength : (takenIds (events ++ [.taken s.nextLockId])).length =
        (takenIds events).length + 1 := by
      rw [takenIds_append, List.length_append]
      rfl
    have hreleased : releasedIds (events ++ [.taken s.nextLockId]) = releasedIds events := by
      rw [releasedIds_append]
      exact List.append_nil _
    rw [Option.toList_some] at hroom ⊢
    rw [hlength] at hroom
    have hnext := h.next
    have hsucc : (s.nextLockId + 1).toNat = s.nextLockId.toNat + 1 :=
      BitVec.toNat_add_of_lt (by rw [hnext]; change 1 + _ + 1 < _; omega)
    have hlt : s.nextLockId < s.nextLockId + 1 := by
      rw [BitVec.lt_def, hsucc]
      exact Nat.lt_add_one _
    -- the id of the counter is not in use
    have hfresh : s.lockCount s.nextLockId = 0 := by
      by_contra hne
      exact BitVec.lt_irrefl _ (h.below _ (Nat.pos_of_ne_zero hne))
    refine ⟨?_, fun id => ?_, fun id hid => ?_, fun id hid => ?_, ?_⟩
    · rw [hlength]
      change (s.nextLockId + 1).toNat = _
      omega
    · rw [lockCount_locked]
      split
      · rename_i heq
        rw [← heq, hfresh]
      · exact h.once id
    · rw [lockCount_locked] at hid
      change id < s.nextLockId + 1
      split at hid
      · rename_i heq
        exact heq ▸ hlt
      · exact BitVec.lt_trans (h.below id hid) hlt
    · rw [hreleased] at hid
      obtain ⟨hbelow, hzero⟩ := h.gone id hid
      refine ⟨BitVec.lt_trans hbelow hlt, ?_⟩
      have hne : s.nextLockId ≠ id := by
        rintro rfl
        exact BitVec.lt_irrefl _ hbelow
      rw [lockCount_locked, hzero, if_neg hne]
    · rw [hreleased]
      exact h.released
  | released assetId who amount choice lockId hcov hchosen =>
    have hthere := exists_of_chosenLock hchosen
    have hpos : 0 < s.lockCount lockId := by
      refine lt_of_lt_of_le ?_ (idCount_locksOf_le twox64 s assetId who lockId)
      obtain ⟨lock, hmem, hid⟩ := hthere
      exact List.count_pos_iff.mpr (hid ▸ List.mem_map_of_mem (f := BalanceLock.id) hmem)
    have htaken : takenIds (events ++ [.released lockId]) = takenIds events := by
      rw [takenIds_append]
      exact List.append_nil _
    have hreleased : releasedIds (events ++ [.released lockId]) =
        releasedIds events ++ [lockId] := releasedIds_append ..
    rw [Option.toList_some]
    refine ⟨?_, fun id => ?_, fun id hid => ?_, fun id hid => ?_, ?_⟩
    · rw [htaken]
      exact h.next
    · have hcount := lockCount_unlocked amount hthere id
      have honce := h.once id
      omega
    · have hcount := lockCount_unlocked amount hthere id
      exact h.below id (by omega)
    · have hcount := lockCount_unlocked amount hthere id
      rw [hreleased, List.mem_append, List.mem_singleton] at hid
      rcases hid with hold | rfl
      · obtain ⟨hbelow, hzero⟩ := h.gone id hold
        exact ⟨hbelow, by omega⟩
      · have honce := h.once id
        rw [if_pos rfl] at hcount
        exact ⟨h.below id hpos, by omega⟩
    · rw [hreleased]
      refine h.released.append (List.nodup_singleton _) (List.disjoint_singleton.mpr fun hold => ?_)
      have hzero := (h.gone lockId hold).2
      omega

/-- **Every lock is one of its kind** after every run that does not take the last id. -/
theorem oneShot_of_run {config : GenesisConfig AccountId} {key : AccountId}
    {ops : List (Op AccountId)}
    (hgenesis : (config.build key : Prog β AccountId Unit) .empty = .ok () s₀)
    (hrun : run (nextLedger β twox64) ops s₀ = some s)
    (htaken : (takenIds (lockEvents β twox64 ops s₀)).length < 2 ^ 128 - 1) :
    s.OneShot (lockEvents β twox64 ops s₀) := by
  have hsame : Store.empty.SameReserves s₀ := (wp_of_ok hgenesis).mp (config.build_reserves key)
  have hcount : ∀ lockId, s₀.lockCount lockId = 0 := fun lockId => by
    rw [Store.lockCount, hsame.locks]
    rfl
  have hstart : s₀.OneShot [] := by
    refine ⟨?_, fun id => ?_, fun id hid => ?_, fun id hid => ?_, List.nodup_nil⟩
    · rw [hsame.nextLockId]
      rfl
    · rw [hcount]
      exact Nat.zero_le _
    · rw [hcount] at hid
      exact absurd hid (Nat.lt_irrefl 0)
    · cases hid
  -- a history in which the last id is not taken has no prefix in which it is
  refine run_invariant
    (I := fun events s => (takenIds events).length < 2 ^ 128 - 1 → s.OneShot events)
    (fun events op s s' ih hnext hroom => ?_) (fun _ => hstart) hrun htaken
  refine (nextLedger_lockEffect hnext).oneShot (ih ?_) hroom
  rw [takenIds_append, List.length_append] at hroom
  omega

omit [Inhabited AccountId] in
/-- What has been released, cannot be released again. -/
theorem Store.OneShot.unreserve_fails (h : s.OneShot events) {lockId : BitVec 128}
    (hgone : lockId ∈ releasedIds events) (assetId : AssetId) (who : AccountId)
    (amount : Balance) :
    (unreserve twox64 assetId who amount (some lockId) : Prog β AccountId Unit) s =
        .err (error .missingLock) s ∨
      (unreserve twox64 assetId who amount (some lockId) : Prog β AccountId Unit) s =
        .err (error .insufficientReservedBalance) s := by
  have hnone : s.chosenLock twox64 assetId who amount (some lockId) = none := by
    -- a lock that can be chosen is there, and one that has been released is not
    by_contra hsome
    obtain ⟨id, hid⟩ := Option.ne_none_iff_exists'.mp hsome
    obtain ⟨lock, hmem, hlock⟩ := exists_of_chosenLock hid
    have hlockId : lockId = id := eq_of_chosenLock hid
    have hle := idCount_locksOf_le twox64 s assetId who lockId
    have hpos : 0 < idCount lockId (s.locksOf twox64 assetId who) :=
      List.count_pos_iff.mpr
        (hlockId.trans hlock.symm ▸ List.mem_map_of_mem (f := BalanceLock.id) hmem)
    have hzero := (h.gone lockId hgone).2
    omega
  have hspec : wp (unreserve twox64 assetId who amount (some lockId) : Prog β AccountId Unit)
      (fun _ _ => False) (fun e t => t = s ∧
        (e = error .missingLock ∨ e = error .insufficientReservedBalance)) False s := by
    refine wp_unreserve.mpr ⟨fun _ => ⟨fun id hid => ?_, fun _ => ⟨rfl, Or.inl rfl⟩⟩,
      fun _ => ⟨rfl, Or.inr rfl⟩⟩
    rw [hnone] at hid
    cases hid
  rcases cases_of_wp hspec with ⟨_, _, -, hno⟩ | ⟨e, _, hx, rfl, rfl | rfl⟩ | ⟨-, hno⟩
  · exact hno.elim
  · exact Or.inl hx
  · exact Or.inr hx
  · exact hno.elim

omit [Inhabited AccountId] in
/-- **What a successful unreserve does to the locks**: one lock of the account and asset is
taken out, and all others stay where they are. -/
theorem locks_of_unreserve {assetId : AssetId} {who : AccountId} {amount : Balance}
    {choice : Option (BitVec 128)}
    (hok : (unreserve twox64 assetId who amount choice : Prog β AccountId Unit) s = .ok () s') :
    ∃ before lock after, s.locksOf twox64 assetId who = before ++ lock :: after ∧
      s'.locksOf twox64 assetId who = before ++ after ∧ (∀ id, choice = some id → lock.id = id) ∧
      ∀ key, key ≠ (genericAssetLockIdentifier twox64 assetId, who) →
        s'.locks.get key = s.locks.get key := by
  rcases unreserve_cases (β := β) twox64 s assetId who amount choice with
    ⟨lockId, hx, -, hchosen⟩ | ⟨e, hx⟩ | hx
  · rw [hx] at hok
    cases hok
    obtain ⟨before, lock, after, hlocks, hid, -, hdrop⟩ :=
      dropFirstLock_split (exists_of_chosenLock hchosen)
    refine ⟨before, lock, after, hlocks, ?_, ?_, fun key hkey => ?_⟩
    · change (s.locks.insert _ _).get _ = _
      rw [StorageMap.get_insert, if_pos rfl, hdrop]
    · rintro id rfl
      rw [hid, eq_of_chosenLock hchosen]
    · change (s.locks.insert _ _).get _ = _
      rw [StorageMap.get_insert, if_neg hkey]
  · rw [hx] at hok
    cases hok
  · rw [hx] at hok
    cases hok

/-- **Locks are one-shot.** After every run from a genesis that has taken fewer than
`2 ^ 128 - 1` locks: the ids of all locks are different and below the counter; a successful
unreserve takes out one lock, of the given account and asset, and keeps all others in order;
no id has been released twice, and an unreserve that names a released one is refused. -/
theorem locks_one_shot {config : GenesisConfig AccountId} {key : AccountId}
    {ops : List (Op AccountId)}
    (hgenesis : (config.build key : Prog β AccountId Unit) .empty = .ok () s₀)
    (hrun : run (nextLedger β twox64) ops s₀ = some s)
    (htaken : (takenIds (lockEvents β twox64 ops s₀)).length < 2 ^ 128 - 1) :
    (s.lockIds.Nodup ∧ ∀ lockId ∈ s.lockIds, lockId < s.nextLockId) ∧
    (∀ assetId who amount choice s',
      (unreserve twox64 assetId who amount choice : Prog β AccountId Unit) s = .ok () s' →
      ∃ before lock after, s.locksOf twox64 assetId who = before ++ lock :: after ∧
        s'.locksOf twox64 assetId who = before ++ after ∧ (∀ id, choice = some id → lock.id = id) ∧
        ∀ key, key ≠ (genericAssetLockIdentifier twox64 assetId, who) →
          s'.locks.get key = s.locks.get key) ∧
    (releasedIds (lockEvents β twox64 ops s₀)).Nodup ∧
    ∀ lockId ∈ releasedIds (lockEvents β twox64 ops s₀), ∀ assetId who amount,
      (unreserve twox64 assetId who amount (some lockId) : Prog β AccountId Unit) s =
          .err (error .missingLock) s ∨
        (unreserve twox64 assetId who amount (some lockId) : Prog β AccountId Unit) s =
          .err (error .insufficientReservedBalance) s := by
  have hshot := oneShot_of_run hgenesis hrun htaken
  refine ⟨⟨?_, ?_⟩, ?_, hshot.released, ?_⟩
  · rw [List.nodup_iff_count_le_one]
    intro lockId
    rw [count_lockIds]
    exact hshot.once lockId
  · intro lockId hmem
    exact hshot.below lockId (mem_lockIds.mp hmem)
  · intro assetId who amount choice s' hok
    exact locks_of_unreserve hok
  · intro lockId hmem assetId who amount
    exact hshot.unreserve_fails hmem assetId who amount

end OneShot

/-- A lock is released, and cannot be released again. -/
theorem locks_one_shot_example : ∃ s, run (nextLedger .release Twox.twox64)
      [.reserve 0 5 10, .reserve 0 5 20, .unreserve 0 5 10 (some 1)] exampleState.assets = some s ∧
    s.lockIds = [2] ∧ s.lockIds.Nodup ∧ (∀ lockId ∈ s.lockIds, lockId < s.nextLockId) ∧
    ((unreserve Twox.twox64 0 5 10 (some 1) : Prog .release ℕ Unit) s =
        .err (error .missingLock) s ∨
      (unreserve Twox.twox64 0 5 10 (some 1) : Prog .release ℕ Unit) s =
        .err (error .insufficientReservedBalance) s) := by
  obtain ⟨s, hrun, hids⟩ := exists_of_any (p := fun s : Store ℕ => s.lockIds = [2])
    (o := run (nextLedger .release Twox.twox64)
      [.reserve 0 5 10, .reserve 0 5 20, .unreserve 0 5 10 (some 1)] exampleState.assets)
    (by decide +kernel)
  have htaken : (takenIds (lockEvents .release Twox.twox64
      [.reserve 0 5 10, .reserve 0 5 20, .unreserve 0 5 10 (some 1)]
      exampleState.assets)).length < 2 ^ 128 - 1 := by decide +kernel
  have hreleased : 1 ∈ releasedIds (lockEvents .release Twox.twox64
      [.reserve 0 5 10, .reserve 0 5 20, .unreserve 0 5 10 (some 1)] exampleState.assets) := by
    decide +kernel
  have hgenesis := MoneyPool.GenesisConfig.assets_of_build exampleConfig_build
  obtain ⟨⟨hnodup, hbelow⟩, -, -, hrefused⟩ := locks_one_shot hgenesis hrun htaken
  exact ⟨s, hrun, hids, hnodup, hbelow, hrefused 1 hreleased 0 5 10⟩

/-! ### The last id -/

/-- The ledger of the example after `n` locks of nothing. -/
structure LocksTaken (n : ℕ) (s : Store ℕ) : Prop where
  next : s.nextLockId = BitVec.ofNat 128 (n + 1)
  first : 0 < n → 0 < s.lockCount 1

/-- One more lock. -/
theorem LocksTaken.next_ledger {n : ℕ} {s : Store ℕ} (h : LocksTaken n s) :
    ∃ s', nextLedger .release Twox.twox64 (.reserve 0 5 0) s = some s' ∧
      Op.lockEvent .release Twox.twox64 (.reserve 0 5 0) s = some (.taken s.nextLockId) ∧
      LocksTaken (n + 1) s' := by
  have hle : (0 : Balance) ≤ s.free 0 5 := by simp [BitVec.le_def]
  have hspec : wp (reserve Twox.twox64 0 5 0 : Prog .release ℕ (BitVec 128))
      (fun id t => id = s.nextLockId ∧ t = s.locked Twox.twox64 0 5 0)
      (fun _ _ => False) False s := by
    refine wp_reserve.mpr ⟨fun _ => ⟨fun hno => ?_, fun _ => ⟨rfl, rfl⟩⟩, fun hno => hno hle⟩
    exact hno ⟨fun hp => absurd hp Bool.false_ne_true, fun hp => absurd hp Bool.false_ne_true⟩
  obtain ⟨_, _, hx, rfl, rfl⟩ := exists_ok_of_wp hspec
  refine ⟨s.locked Twox.twox64 0 5 0, ?_, ?_, ?_, fun _ => ?_⟩
  · simp only [nextLedger, Op.exec, bind, hx]
    rfl
  · rw [Op.lockEvent, hx]
  · change s.nextLockId + 1 = _
    rw [h.next, BitVec.ofNat_add (n + 1) 1]
    rfl
  · rw [lockCount_locked]
    rcases Nat.eq_zero_or_pos n with rfl | hpos
    · rw [h.next, if_pos (by decide)]
      omega
    · have hfirst := h.first hpos
      omega

/-- As many locks as one likes. -/
theorem LocksTaken.run (m : ℕ) {n : ℕ} {s : Store ℕ} (h : LocksTaken n s) :
    ∃ s', run (nextLedger .release Twox.twox64) (List.replicate m (.reserve 0 5 0)) s = some s' ∧
      (takenIds (lockEvents .release Twox.twox64 (List.replicate m (.reserve 0 5 0)) s)).length =
        m ∧ LocksTaken (n + m) s' := by
  induction m generalizing n s with
  | zero => exact ⟨s, rfl, rfl, h⟩
  | succ m ih =>
    obtain ⟨s₁, hnext, hevent, htaken⟩ := h.next_ledger
    obtain ⟨s', hrun, hlength, hs'⟩ := ih htaken
    refine ⟨s', ?_, ?_, ?_⟩
    · rw [List.replicate_succ, Pallet.run, hnext]
      exact hrun
    · rw [lockEvents, List.replicate_succ, collect, hevent, hnext, takenIds_append,
        List.length_append]
      rw [lockEvents] at hlength
      rw [Option.elim_some, hlength, Nat.add_comm]
      rfl
    · rwa [Nat.add_assoc, Nat.add_comm 1 m] at hs'

/-- One lock fewer than there are ids, and the counter is below all of them. -/
theorem lock_ids_not_below : ¬∀ (ops : List (Op ℕ)) s,
    run (nextLedger .release Twox.twox64) ops exampleState.assets = some s →
    (takenIds (lockEvents .release Twox.twox64 ops exampleState.assets)).length < 2 ^ 128 →
    ∀ lockId ∈ s.lockIds, lockId < s.nextLockId := by
  intro h
  have hstart : LocksTaken 0 exampleState.assets :=
    ⟨by decide +kernel, fun hpos => absurd hpos (Nat.lt_irrefl 0)⟩
  obtain ⟨s, hrun, hlength, htaken⟩ := hstart.run (2 ^ 128 - 1)
  rw [Nat.zero_add] at htaken
  have hmem : (1 : BitVec 128) ∈ s.lockIds := mem_lockIds.mpr (htaken.first (by norm_num))
  have hzero : s.nextLockId = 0 := htaken.next.trans (by decide)
  have hlt := h _ s hrun (by rw [hlength]; norm_num) 1 hmem
  rw [hzero] at hlt
  exact absurd hlt (by decide)

end GenericAsset

end MoneyPool
