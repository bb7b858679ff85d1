import MoneyPool.Pallet.Simulation
import MoneyPool.GenericAsset.Locks

/-!
# The life of a lock

Seen from the id of a lock, the ledger is a machine of three stages: the id is unused until a
reserve takes it, for an asset, an account and an amount; the lock is then open; and an unreserve of
the same asset and account releases it for good. The ledger is simulated by that machine, for every
id at once, as long as the counter of ids does not wrap
(`MoneyPool.GenericAsset.ledger_simulates_lock`). So what the pallet tells of a lock is what it was
taken for, from then on until it is released (`MoneyPool.GenericAsset.lock_life`), whatever is
reserved, released and paid beside it.
-/

namespace MoneyPool

namespace GenericAsset

open Pallet Pallet.Exec

variable {AccountId : Type}

/-! ### The machine of a lock -/

/-- What happens to a lock. -/
inductive LockMove (AccountId : Type) where
  | taken (assetId : AssetId) (who : AccountId) (amount : Balance) : LockMove AccountId
  | released (assetId : AssetId) (who : AccountId) : LockMove AccountId
  deriving DecidableEq

/-- **The stages of a lock**, or of its id. -/
inductive LockStage (AccountId : Type) where
  | unused : LockStage AccountId
  | taken (assetId : AssetId) (who : AccountId) (amount : Balance) : LockStage AccountId
  | released : LockStage AccountId

variable [DecidableEq AccountId]

/-- **The machine of a lock.** Only the account that a lock was taken for gets it released. -/
def LockMove.next : LockMove AccountId → LockStage AccountId → Option (LockStage AccountId)
  | .taken assetId who amount, .unused => some (.taken assetId who amount)
  | .released assetId who, .taken assetId' who' _ =>
    if assetId = assetId' ∧ who = who' then some .released else none
  | _, _ => none

/-- The locks of an id that an asset and an account have in a stage. -/
def LockStage.locks (lockId : BitVec 128) (assetId : AssetId) (who : AccountId) :
    LockStage AccountId → List BalanceLock
  | .taken assetId' who' amount =>
    if assetId = assetId' ∧ who = who'
    then [{ id := lockId, assetId := assetId', amount := amount }] else []
  | _ => []

/-- **The life of a lock**, as its machine allows it. -/
theorem LockMove.run_unused {moves : List (LockMove AccountId)} {stage : LockStage AccountId}
    (h : run LockMove.next moves .unused = some stage) :
    moves = [] ∧ stage = .unused ∨ ∃ assetId who amount,
      moves = [.taken assetId who amount] ∧ stage = .taken assetId who amount ∨
        moves = [.taken assetId who amount, .released assetId who] ∧ stage = .released := by
  rcases moves with _ | ⟨first, moves⟩
  · exact Or.inl ⟨rfl, (Option.some.inj h).symm⟩
  obtain ⟨stage₁, hfirst, h⟩ := Option.bind_eq_some_iff.mp h
  cases first with
  | released => cases hfirst
  | taken assetId who amount =>
    cases hfirst
    refine Or.inr ⟨assetId, who, amount, ?_⟩
    rcases moves with _ | ⟨second, moves⟩
    · exact Or.inl ⟨rfl, (Option.some.inj h).symm⟩
    obtain ⟨stage₂, hsecond, h⟩ := Option.bind_eq_some_iff.mp h
    cases second with
    | taken => cases hsecond
    | released assetId' who' =>
      obtain ⟨⟨rfl, rfl⟩, heq⟩ := Option.ite_none_right_eq_some.mp hsecond
      cases heq
      rcases moves with _ | ⟨third, moves⟩
      · exact Or.inr ⟨rfl, (Option.some.inj h).symm⟩
      · obtain ⟨_, hthird, -⟩ := Option.bind_eq_some_iff.mp h
        cases third <;> cases hthird

/-! ### What an operation means for a lock -/

/-- The amount of an account's lock of an id. -/
def Store.lockedBalance (twox64 : List UInt8 → LockIdentifier) (s : Store AccountId)
    (assetId : AssetId) (who : AccountId) (lockId : BitVec 128) : Option Balance :=
  ((s.locks.get (genericAssetLockIdentifier twox64 assetId, who)).find?
    fun l => l.id = lockId).map BalanceLock.amount

/-- What an operation means for the lock of an id, from what it does to a lock. -/
def Op.moveOf (lockId : BitVec 128) : Op AccountId → Option LockEvent → Option (LockMove AccountId)
  | .reserve assetId who amount, some (.taken id) =>
    if id = lockId then some (.taken assetId who amount) else none
  | .unreserve assetId who _ _, some (.released id) =>
    if id = lockId then some (.released assetId who) else none
  | _, _ => none

/-- **What an operation means for the lock of an id.** -/
def Op.lockMove [Inhabited AccountId] (β : Build) (twox64 : List UInt8 → LockIdentifier)
    (lockId : BitVec 128) (op : Op AccountId) (s : Store AccountId) :
    Option (LockMove AccountId) :=
  op.moveOf lockId (op.lockEvent β twox64 s)

/-- **A stage is that of the lock of an id**: what there is of it is where it says, and an id that
has not been given out is unused. -/
structure Store.HasLock (twox64 : List UInt8 → LockIdentifier) (s : Store AccountId)
    (lockId : BitVec 128) (stage : LockStage AccountId) : Prop where
  locks : ∀ assetId who, (s.locksOf twox64 assetId who).filter (fun l => l.id = lockId) =
    stage.locks lockId assetId who
  fresh : s.nextLockId ≤ lockId → stage = .unused

section Steps

variable {β : Build} {twox64 : List UInt8 → LockIdentifier} {s s' : Store AccountId}
  {lockId : BitVec 128} {assetId assetId' : AssetId} {who who' : AccountId} {amount : Balance}
  {stage : LockStage AccountId} {op : Op AccountId} {ev : Option LockEvent}

omit [DecidableEq AccountId] in
/-- What the pallet tells of a lock. -/
theorem Store.HasLock.lockedBalance [DecidableEq AccountId] (h : s.HasLock twox64 lockId stage) :
    s.lockedBalance twox64 assetId who lockId =
      ((stage.locks lockId assetId who).head?).map BalanceLock.amount := by
  rw [Store.lockedBalance, ← h.locks, List.head?_filter]
  rfl

theorem locksOf_of_insert (hinj : Function.Injective (genericAssetLockIdentifier twox64))
    {locks : List BalanceLock}
    (hlocks : s'.locks = s.locks.insert (genericAssetLockIdentifier twox64 assetId, who) locks) :
    s'.locksOf twox64 assetId' who' =
      if assetId' = assetId ∧ who' = who then locks else s.locksOf twox64 assetId' who' := by
  rw [Store.locksOf, hlocks, StorageMap.get_insert]
  refine if_congr ?_ rfl rfl
  rw [Prod.mk.injEq, hinj.eq_iff]

/-- **A lock is taken**, of the id that is looked at or of another one. -/
theorem Store.HasLock.taken (hinj : Function.Injective (genericAssetLockIdentifier twox64))
    (hroom : s.nextLockId.toNat + 1 < 2 ^ 128) (h : s.HasLock twox64 lockId stage) :
    ∃ stage', run LockMove.next ((Op.reserve assetId who amount).moveOf lockId
        (some (.taken s.nextLockId))).toList stage = some stage' ∧
      (s.locked twox64 assetId who amount).HasLock twox64 lockId stage' := by
  have hnew : (s.locked twox64 assetId who amount).nextLockId.toNat = s.nextLockId.toNat + 1 :=
    BitVec.toNat_add_of_lt hroom
  have hlocksOf {assetId' who'} :
      (s.locked twox64 assetId who amount).locksOf twox64 assetId' who' =
        if assetId' = assetId ∧ who' = who
        then s.locksOf twox64 assetId who ++ [s.newLock assetId amount]
        else s.locksOf twox64 assetId' who' := locksOf_of_insert hinj rfl
  rcases eq_or_ne s.nextLockId lockId with rfl | hne
  · obtain rfl := h.fresh (BitVec.le_refl _)
    have hmove : (Op.reserve assetId who amount).moveOf s.nextLockId
        (some (.taken s.nextLockId)) = some (.taken assetId who amount) := if_pos rfl
    rw [hmove]
    refine ⟨.taken assetId who amount, run_singleton rfl, fun assetId' who' => ?_, fun hle => ?_⟩
    · rw [hlocksOf, LockStage.locks]
      split
      · rename_i heq
        obtain ⟨rfl, rfl⟩ := heq
        rw [List.filter_append, h.locks]
        simp [LockStage.locks, Store.newLock]
      · exact h.locks assetId' who'
    · rw [BitVec.le_def, hnew] at hle
      omega
  · have hmove : (Op.reserve assetId who amount).moveOf lockId
        (some (.taken s.nextLockId)) = none := if_neg hne
    rw [hmove]
    refine ⟨stage, rfl, fun assetId' who' => ?_, fun hle => h.fresh ?_⟩
    · rw [hlocksOf, ← h.locks]
      split
      · rename_i heq
        obtain ⟨rfl, rfl⟩ := heq
        rw [List.filter_append]
        simp [Store.newLock, hne]
      · rfl
    · rw [BitVec.le_def] at hle ⊢
      omega

/-- **A lock is released**, the one that is looked at or another one. -/
theorem Store.HasLock.released (hinj : Function.Injective (genericAssetLockIdentifier twox64))
    {choice : Option (BitVec 128)} {id : BitVec 128}
    (hchosen : s.chosenLock twox64 assetId who amount choice = some id)
    (h : s.HasLock twox64 lockId stage) :
    ∃ stage', run LockMove.next ((Op.unreserve assetId who amount choice).moveOf lockId
        (some (.released id))).toList stage = some stage' ∧
      (s.unlocked twox64 assetId who amount id).HasLock twox64 lockId stage' := by
  obtain ⟨before, lock, after, hlocks, hid, -, hdrop⟩ :=
    dropFirstLock_split (exists_of_chosenLock hchosen)
  have hlocksOf {assetId' who'} :
      (s.unlocked twox64 assetId who amount id).locksOf twox64 assetId' who' =
        if assetId' = assetId ∧ who' = who then before ++ after
        else s.locksOf twox64 assetId' who' := hdrop ▸ locksOf_of_insert hinj rfl
  have hthere := h.locks assetId who
  rw [hlocks, List.filter_append] at hthere
  rcases eq_or_ne id lockId with rfl | hne
  · have hmove : (Op.unreserve assetId who amount choice).moveOf id (some (.released id)) =
        some (.released assetId who) := if_pos rfl
    have hkept : (lock :: after).filter (fun l => l.id = id) =
        lock :: after.filter (fun l => l.id = id) := List.filter_cons_of_pos (by simpa using hid)
    rw [hmove]
    rw [hkept] at hthere
    -- the lock is there, so it is open, and for this asset and account
    cases stage with
    | taken assetId' who' amount' =>
      by_cases heq : assetId = assetId' ∧ who = who'
      · obtain ⟨rfl, rfl⟩ := heq
        rw [LockStage.locks, if_pos ⟨rfl, rfl⟩] at hthere
        have hempty := congrArg List.length hthere
        rw [List.length_append, List.length_cons, List.length_singleton] at hempty
        refine ⟨.released, run_singleton (if_pos ⟨rfl, rfl⟩), fun assetId' who' => ?_,
          fun hle => ?_⟩
        · rw [hlocksOf]
          split
          · rw [List.filter_append]
            exact List.append_eq_nil_iff.mpr
              ⟨List.length_eq_zero_iff.mp (by omega), List.length_eq_zero_iff.mp (by omega)⟩
          · rename_i hother
            exact (h.locks assetId' who').trans (if_neg hother)
        · cases h.fresh hle
      · rw [LockStage.locks, if_neg heq] at hthere
        exact absurd (List.append_eq_nil_iff.mp hthere).2 (List.cons_ne_nil _ _)
    | _ => exact absurd (List.append_eq_nil_iff.mp hthere).2 (List.cons_ne_nil _ _)
  · have hmove : (Op.unreserve assetId who amount choice).moveOf lockId (some (.released id)) =
        none := if_neg hne
    have hkept : (lock :: after).filter (fun l => l.id = lockId) =
        after.filter (fun l => l.id = lockId) :=
      List.filter_cons_of_neg (by simpa [hid] using hne)
    rw [hmove]
    rw [hkept, ← List.filter_append] at hthere
    refine ⟨stage, rfl, fun assetId' who' => ?_, h.fresh⟩
    rw [hlocksOf]
    split
    · rename_i heq
      obtain ⟨rfl, rfl⟩ := heq
      exact hthere
    · exact h.locks assetId' who'

/-- **The ledger, seen from the id of a lock**, is the machine of a lock. -/
theorem ledger_simulates_lock [Inhabited AccountId]
    (hinj : Function.Injective (genericAssetLockIdentifier twox64)) (lockId : BitVec 128) :
    Simulates (nextLedger β twox64)
      (fun (s : Store AccountId) _ => s.nextLockId.toNat + 1 < 2 ^ 128)
      (Op.lockMove β twox64 lockId) LockMove.next
      fun s stage => s.HasLock twox64 lockId stage where
  step op s s' stage h hroom hnext := by
    have heff := nextLedger_lockEffect hnext
    rw [Op.lockMove]
    generalize op.lockEvent β twox64 s = ev at heff
    cases heff with
    | same _ hsame =>
      have hmove : op.moveOf lockId none = none := by cases op <;> rfl
      rw [hmove]
      refine ⟨stage, rfl, fun assetId who => ?_, fun hle => h.fresh ?_⟩
      · rw [Store.locksOf, hsame.locks]
        exact h.locks assetId who
      · rwa [hsame.nextLockId] at hle
    | taken assetId who amount => exact h.taken hinj hroom
    | released assetId who amount choice id _ hchosen => exact h.released hinj hchosen

end Steps

/-! ### Runs -/

/-- **The life of a lock**, where the hash tells the ids of assets apart. In every run from genesis
in which the counter of lock ids does not wrap, an id is used for one lock at most. While that lock
is open, the pallet tells for its id the amount that it was taken with, for the asset and the
account of the reserve and for no others. Only an unreserve of that asset and account releases it,
at most once, and before and after that the pallet has nothing to tell. -/
theorem lock_life [Inhabited AccountId] {β : Build} {twox64 : List UInt8 → LockIdentifier}
    {config : GenesisConfig AccountId} {key : AccountId} {s₀ s : Store AccountId}
    {ops : List (Op AccountId)} (hinj : Function.Injective (genericAssetLockIdentifier twox64))
    (hgenesis : (config.build key : Prog β AccountId Unit) .empty = .ok () s₀)
    (hrun : run (nextLedger β twox64) ops s₀ = some s)
    (hroom : ∀ x ∈ trace (nextLedger β twox64) ops s₀, x.1.nextLockId.toNat + 1 < 2 ^ 128)
    (lockId : BitVec 128) :
    (collect (nextLedger β twox64) (Op.lockMove β twox64 lockId) ops s₀ = [] ∧
        ∀ assetId who, s.lockedBalance twox64 assetId who lockId = none) ∨
      ∃ assetId who amount,
        collect (nextLedger β twox64) (Op.lockMove β twox64 lockId) ops s₀ =
              [.taken assetId who amount] ∧
            (∀ assetId' who', s.lockedBalance twox64 assetId' who' lockId =
              if assetId' = assetId ∧ who' = who then some amount else none) ∨
          collect (nextLedger β twox64) (Op.lockMove β twox64 lockId) ops s₀ =
              [.taken assetId who amount, .released assetId who] ∧
            ∀ assetId' who', s.lockedBalance twox64 assetId' who' lockId = none := by
  have hsame : Store.empty.SameReserves s₀ := (wp_of_ok hgenesis).mp (config.build_reserves key)
  have hstart : s₀.HasLock twox64 lockId .unused := by
    refine ⟨fun assetId who => ?_, fun _ => rfl⟩
    rw [Store.locksOf, hsame.locks]
    rfl
  obtain ⟨stage, hmoves, hlock⟩ :=
    (ledger_simulates_lock hinj lockId).follows hstart hrun hroom
  rcases LockMove.run_unused hmoves with ⟨hnil, rfl⟩ | ⟨assetId, who, amount, hlife⟩
  · exact Or.inl ⟨hnil, fun assetId who => hlock.lockedBalance⟩
  · refine Or.inr ⟨assetId, who, amount, ?_⟩
    rcases hlife with ⟨htaken, rfl⟩ | ⟨hreleased, rfl⟩
    · refine Or.inl ⟨htaken, fun assetId' who' => ?_⟩
      rw [hlock.lockedBalance, LockStage.locks]
      split <;> rfl
    · exact Or.inr ⟨hreleased, fun assetId' who' => hlock.lockedBalance⟩

/-- Two locks, of which the first is released. -/
theorem lock_life_example : ∃ s, run (nextLedger .release Twox.twox64)
      [.reserve 0 5 10, .reserve 1 5 20, .unreserve 0 5 10 (some 1)] exampleState.assets = some s ∧
    s.lockedBalance Twox.twox64 1 5 2 = some 20 ∧ s.lockedBalance Twox.twox64 0 5 2 = none := by
  obtain ⟨s, hrun, -⟩ := exists_of_any (p := fun _ => True)
    (o := run (nextLedger .release Twox.twox64)
      [.reserve 0 5 10, .reserve 1 5 20, .unreserve 0 5 10 (some 1)] exampleState.assets)
    (by decide +kernel)
  have hroom : ∀ x ∈ trace (nextLedger .release Twox.twox64)
      [.reserve 0 5 10, .reserve 1 5 20, .unreserve 0 5 10 (some 1)] exampleState.assets,
      x.1.nextLockId.toNat + 1 < 2 ^ 128 := by decide +kernel
  have hmoves : collect (nextLedger .release Twox.twox64) (Op.lockMove .release Twox.twox64 2)
      [.reserve 0 5 10, .reserve 1 5 20, .unreserve 0 5 10 (some 1)] exampleState.assets =
        [.taken 1 5 20] := by decide +kernel
  have hgenesis := MoneyPool.GenesisConfig.assets_of_build exampleConfig_build
  refine ⟨s, hrun, ?_⟩
  rcases lock_life twox64_injective hgenesis hrun hroom 2 with
    ⟨hnil, -⟩ | ⟨_, _, _, ⟨htaken, hbal⟩ | ⟨hend, -⟩⟩
  · rw [hmoves] at hnil
    cases hnil
  · rw [hmoves] at htaken
    cases htaken
    exact ⟨hbal 1 5, hbal 0 5⟩
  · rw [hmoves] at hend
    cases hend

end GenericAsset

end MoneyPool
